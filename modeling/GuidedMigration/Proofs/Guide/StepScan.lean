/-
This file shows that the scan for steps finds what is there. Which lines are outside of all fenced
regions is said without the scan: a region begins at a line outside that opens one and ends with the
first later line that closes it, or never. The steps are the lines outside that say one, in order,
and the snippet of a step is the first region that is closed behind it and begins before the next
step.

The scan is followed line by line. So many lines having been read, the steps among them are known,
and which region each of them has of those that are closed by then. The line behind them closes a
region, which goes to the last of these steps if that has none; or it changes nothing; or it is
outside and opens no region, and may be a step itself.
-/
import GuidedMigration.Proofs.Guide.StepLine
import Mathlib.Data.List.Forall2

namespace GuidedMigration.Guide

open Text

/-! ### Regions and steps -/

/-- Whether a region goes from one line to another: the first opens it, and the other is the first
line behind that closes it. -/
structure Encloses (lines : List Text) (start stop : Nat) (fence : Fence) : Prop where
  opens : ∃ line, lines[start]? = some line ∧ Opens line fence
  closes : ∃ line, lines[stop]? = some line ∧ IsClosing fence line
  behind : start < stop
  goesOn : ∀ between line, start < between → between < stop → lines[between]? = some line →
    ¬ IsClosing fence line

/-- Whether the line at an index begins outside of all regions: the first line does, and so does the
line behind one that opens no region, and the line behind the end of a region. -/
inductive Outside (lines : List Text) : Nat → Prop
  | first : Outside lines 0
  | next {index : Nat} {line : Text} (outside : Outside lines index)
      (found : lines[index]? = some line) (plain : ∀ fence, ¬ Opens line fence) :
      Outside lines (index + 1)
  | behind {start stop : Nat} {fence : Fence} (outside : Outside lines start)
      (region : Encloses lines start stop fence) : Outside lines (stop + 1)

/-- Whether the line at an index is a step with a number and a text. -/
def TellsAt (lines : List Text) (index : Nat) (number : Option Nat) (text : Text) : Prop :=
  Outside lines index ∧ ∃ line, lines[index]? = some line ∧ Tells line number text

/-- Whether the line at an index is a step. -/
def IsStepLine (lines : List Text) (index : Nat) : Prop :=
  ∃ number text, TellsAt lines index number text

/-- Whether a region is the first one that is closed behind a step and begins before the next
step. -/
structure Belongs (lines : List Text) (index start stop : Nat) (fence : Fence) : Prop where
  outside : Outside lines start
  region : Encloses lines start stop fence
  behind : index < start
  noStep : ∀ other, index < other → other < start → ¬ IsStepLine lines other
  first : ∀ start' stop' fence', Outside lines start' → Encloses lines start' stop' fence' →
    index < start' → start ≤ start'

/-- The block of code that a region is: its language, the lines inside without its indentation, and
the line that it begins at. -/
def blockOf (offset : Int) (lines : List Text) (start stop : Nat) (fence : Fence) : CodeBlock :=
  ⟨fence.language,
    ((lines.take stop).drop (start + 1)).flatMap fun line => fence.cut line ++ ['\n'],
    some (offset + start)⟩

/-- Whether a snippet is the one of the step at an index, as far as regions are concerned that are
closed before a line. Without a snippet, each of them begins behind another step. -/
def HasSnippet (offset : Int) (lines : List Text) (bound index : Nat) : Option CodeBlock → Prop
  | some block => ∃ start stop fence, Belongs lines index start stop fence ∧ stop < bound ∧
      block = blockOf offset lines start stop fence
  | none => ∀ start stop fence, Outside lines start → Encloses lines start stop fence →
      stop < bound → index < start → ∃ other, index < other ∧ other < start ∧ IsStepLine lines other

/-- Whether a step is the one at an index. -/
structure IsStepAt (offset : Int) (lines : List Text) (bound index : Nat) (step : Step) : Prop where
  tells : TellsAt lines index step.number step.text
  line : step.line = some (offset + index)
  snippet : HasSnippet offset lines bound index step.snippet

/-- Whether steps are those of the lines of a guide, of which the first is line `offset`: they are
the lines that say one, in order; no region is the snippet of two of them; and each snippet begins
behind its step. -/
structure IsScan (offset : Int) (lines : List Text) (found : List Step) : Prop where
  steps : ∃ indexes : List Nat, indexes.Pairwise (· < ·) ∧
    (∀ index, index ∈ indexes ↔ IsStepLine lines index) ∧
    List.Forall₂ (IsStepAt offset lines lines.length) indexes found
  once : ((found.filterMap (·.snippet)).map (·.line)).Nodup
  behind : ∀ step ∈ found, ∀ block, step.snippet = some block →
    ∃ own its, step.line = some own ∧ block.line = some its ∧ own < its

variable {offset : Int} {lines rest : List Text} {line : Text}
  {index start stop bound last : Nat}
  {fence : Fence} {done found : List Step} {indexes : List Nat}

/-! ### Outside of regions -/

/-- A region as the scan has it before its first line. -/
def Fence.at (start : Nat) (fence : Fence) : Fence := { fence with start := start, body := [] }

theorem begins_of_opens (outside : openAt lines start = none) (found : lines[start]? = some line)
    (opens : Opens line fence) : Begins lines start (fence.at start) :=
  ⟨outside, line, found,
    opens?_iff.mpr ⟨rfl, rfl, opens.indent, opens.mark, opens.size, opens.shape⟩⟩

theorem Encloses.isRegion (region : Encloses lines start stop fence)
    (outside : openAt lines start = none) : IsRegion lines (fence.at start) stop := by
  obtain ⟨first, foundFirst, opens⟩ := region.opens
  obtain ⟨last, foundLast, -⟩ := region.closes
  have inside := (List.getElem?_eq_some_iff.mp foundLast).1
  -- The region is open up to each line from its first one to the one that closes it.
  have upTo (more : Nat) (within : start + 1 + more ≤ stop) :
      IsRegion lines (fence.at start) (start + 1 + more) := by
    induction more with
    | zero => exact .single (begins_of_opens outside foundFirst opens)
    | succ more inductionHypothesis =>
      have found : lines[start + 1 + more]? = some lines[start + 1 + more] :=
        List.getElem?_eq_getElem (by omega)
      refine (inductionHypothesis (by omega)).succ found (eq_false_of_ne_true fun closed => ?_)
      exact region.goesOn _ _ (by omega) (by omega) found (isClosedBy_iff.mp closed)
  have behind := region.behind
  have reached := upTo (stop - (start + 1)) (by omega)
  rwa [Nat.add_sub_cancel' behind] at reached

theorem Encloses.closes_upTo (region : Encloses lines start stop fence)
    (outside : openAt lines start = none) :
    Closes lines stop ((fence.at start).upTo lines stop) := by
  have reached := region.isRegion outside
  obtain ⟨line, found, closing⟩ := region.closes
  exact ⟨reached.opened stop reached.reaches (Nat.le_refl stop), line, found,
    isClosedBy_iff.mpr closing⟩

/-- A line that closes a region is the last one of a region that goes up to it. -/
theorem exists_encloses (closes : Closes lines index fence) :
    ∃ opening, openAt lines opening.start = none ∧
      Encloses lines opening.start index opening ∧ fence = opening.upTo lines index := by
  obtain ⟨opened, line, found, closed⟩ := closes
  obtain ⟨opening, region, rfl⟩ := exists_isRegion opened
  obtain ⟨outside, first, foundFirst, opens⟩ := region.begins
  refine ⟨opening, outside, ⟨⟨first, foundFirst, (opens?_iff.mp opens).2.2⟩,
    ⟨line, found, isClosedBy_iff.mp closed⟩, region.reaches, ?_⟩, rfl⟩
  intro between other behind within foundOther closing
  have goesOn := region.isClosedBy_eq_false behind within foundOther
  rw [isClosedBy_iff.mpr closing] at goesOn
  cases goesOn

theorem openAt_of_outside (outside : Outside lines index) : openAt lines index = none := by
  induction outside with
  | first => rfl
  | next _ found plain inductionHypothesis =>
    refine openAt_succ_of_free ⟨inductionHypothesis, _, found, ?_⟩
    refine Option.eq_none_iff_forall_ne_some.mpr fun fence opened => ?_
    exact plain fence (opens?_iff.mp opened).2.2
  | behind _ region inductionHypothesis =>
    exact openAt_succ_of_closes (region.closes_upTo inductionHypothesis)

theorem outside_of_openAt (within : index ≤ lines.length) (outside : openAt lines index = none) :
    Outside lines index := by
  induction index using Nat.strongRecOn with
  | ind index inductionHypothesis =>
    cases index with
    | zero => exact .first
    | succ index =>
      have found : lines[index]? = some lines[index] := List.getElem?_eq_getElem within
      cases before : openAt lines index with
      | none =>
        obtain ⟨-, line, foundLine, none'⟩ := isFree_of_openAt before outside within
        refine .next (inductionHypothesis index (by omega) (by omega) before) foundLine ?_
        intro fence opens
        have opened := (@opens?_iff _ (fence.at index) index).mpr
          ⟨rfl, rfl, opens.indent, opens.mark, opens.size, opens.shape⟩
        rw [none'] at opened
        cases opened
      | some fence =>
        rw [openAt_succ found, before, openBehind] at outside
        split at outside
        · rename_i closed
          obtain ⟨opening, begun, region, -⟩ := exists_encloses ⟨before, _, found, closed⟩
          have earlier := region.behind
          exact .behind (inductionHypothesis _ (by omega) (by omega) begun) region
        · cases outside

/-- No line of a region but the first one is outside. -/
theorem Encloses.not_outside (region : Encloses lines start stop fence)
    (outside : Outside lines start) (behind : start < index) (within : index ≤ stop) :
    ¬ Outside lines index := by
  intro other
  have opened := (region.isRegion (openAt_of_outside outside)).opened index behind within
  rw [openAt_of_outside other] at opened
  cases opened

/-- The line that opens a region is no step. -/
theorem Encloses.not_isStepLine (region : Encloses lines start stop fence) :
    ¬ IsStepLine lines start := by
  rintro ⟨number, text, -, line, found, told⟩
  obtain ⟨first, foundFirst, opens⟩ := region.opens
  obtain rfl := Option.some.inj (found.symm.trans foundFirst)
  exact opens.not_tells told

/-- A step in front of the end of a region is in front of the region. -/
theorem Encloses.lt_start (region : Encloses lines start stop fence) (outside : Outside lines start)
    (step : IsStepLine lines index) (before : index ≤ stop) : index < start := by
  rcases Nat.lt_trichotomy index start with earlier | rfl | later
  · exact earlier
  · exact absurd step region.not_isStepLine
  · obtain ⟨number, text, other, -⟩ := step
    exact absurd other (region.not_outside outside later before)

/-! ### One line -/

theorem Fence.block_upTo (offset : Int) (lines : List Text) (stop : Nat) (fence : Fence) :
    (fence.upTo lines stop).block offset = blockOf offset lines fence.start stop fence := by
  rw [block, upTo, blockOf]
  dsimp only
  rw [List.reverse_reverse]
  rfl

/-- What the scan does at a line: it closes a region, or takes no notice of the line, or looks at a
line outside that opens no region. -/
inductive Passes (offset : Int) (lines : List Text) (bound : Nat) (line : Text)
    (rest : List Text) : Prop
  | closing (start : Nat) (fence : Fence) (outside : Outside lines start)
      (region : Encloses lines start bound fence)
      (goes : ∀ done, stepsFrom offset bound (openAt lines bound) done (line :: rest) =
        stepsFrom offset (bound + 1) (openAt lines (bound + 1))
          (attach (blockOf offset lines start bound fence) done) rest)
  | silent (noEnd : ∀ start fence, Outside lines start → ¬ Encloses lines start bound fence)
      (noStep : ¬ IsStepLine lines bound) (fits : Outside lines bound → Fits line)
      (goes : ∀ done, stepsFrom offset bound (openAt lines bound) done (line :: rest) =
        stepsFrom offset (bound + 1) (openAt lines (bound + 1)) done rest)
  | outside (noEnd : ∀ start fence, Outside lines start → ¬ Encloses lines start bound fence)
      (outside : Outside lines bound)
      (goes : ∀ done, stepsFrom offset bound (openAt lines bound) done (line :: rest) =
        stepOf? offset bound line >>= fun step? =>
          stepsFrom offset (bound + 1) (openAt lines (bound + 1)) (step?.toList ++ done) rest)

/-- A line that opens a region has no number. -/
theorem Opens.fits (opens : Opens line fence) : Fits line :=
  fun _ _ shape => absurd (.numbered shape) opens.not_tells

theorem passes (offset : Int) (found : lines[bound]? = some line) (rest : List Text) :
    Passes offset lines bound line rest := by
  have within := Nat.le_of_lt (List.getElem?_eq_some_iff.mp found).1
  have behind := openAt_succ found
  have noStep (opened : openAt lines bound ≠ none) : ¬ IsStepLine lines bound :=
    fun ⟨_, _, outside, _⟩ => opened (openAt_of_outside outside)
  cases opened : openAt lines bound with
  | some fence =>
    have noStep := noStep (by simp [opened])
    rw [opened, openBehind] at behind
    cases closed : fence.isClosedBy line with
    | true =>
      obtain ⟨opening, begun, region, rfl⟩ := exists_encloses ⟨opened, line, found, closed⟩
      have outside := outside_of_openAt (by have := region.behind; omega) begun
      refine .closing opening.start opening outside region fun done => ?_
      rw [if_pos closed] at behind
      rw [behind, opened, stepsFrom, if_pos closed, Fence.block_upTo]
    | false =>
      rw [closed, if_neg Bool.false_ne_true] at behind
      refine .silent (fun start opening outside region => ?_) noStep
        (fun outside => ?_) fun done => ?_
      · obtain ⟨held, other, foundOther, closes⟩ := region.closes_upTo (openAt_of_outside outside)
        obtain rfl := Option.some.inj (found.symm.trans foundOther)
        obtain rfl := Option.some.inj (opened.symm.trans held)
        rw [closed] at closes
        cases closes
      · rw [openAt_of_outside outside] at opened
        cases opened
      · rw [behind, opened, stepsFrom, closed, if_neg Bool.false_ne_true]
  | none =>
    have outside := outside_of_openAt within opened
    have noEnd (start : Nat) (fence : Fence) (begun : Outside lines start)
        (region : Encloses lines start bound fence) : False :=
      region.not_outside begun region.behind (Nat.le_refl bound) outside
    rw [opened, openBehind] at behind
    cases opens : opens? bound line with
    | some fence =>
      have shape := (opens?_iff.mp opens).2.2
      refine .silent noEnd ?_ (fun _ => shape.fits) fun done => ?_
      · rintro ⟨number, text, -, other, foundOther, told⟩
        obtain rfl := Option.some.inj (found.symm.trans foundOther)
        exact shape.not_tells told
      · rw [behind, opened, stepsFrom, opens]
    | none =>
      refine .outside noEnd outside fun done => ?_
      rw [behind, opened, stepsFrom, opens]

/-! ### The lines so far -/

/-- Whether steps, last first, are those of so many lines that have been read. -/
structure AreUpTo (offset : Int) (lines : List Text) (bound : Nat) (indexes : List Nat)
    (done : List Step) : Prop where
  order : indexes.Pairwise (· > ·)
  exact : ∀ index, index ∈ indexes ↔ index < bound ∧ IsStepLine lines index
  steps : List.Forall₂ (IsStepAt offset lines bound) indexes done

/-- A region that ends behind so many lines matters to a step only if it begins before the next
one. -/
theorem HasSnippet.succ {snippet : Option CodeBlock}
    (held : HasSnippet offset lines bound index snippet)
    (apart : ∀ start fence, Outside lines start → Encloses lines start bound fence →
      index < start → ∃ other, index < other ∧ other < start ∧ IsStepLine lines other) :
    HasSnippet offset lines (bound + 1) index snippet := by
  cases snippet with
  | some block =>
    obtain ⟨start, stop, fence, belongs, closed, same⟩ := held
    exact ⟨start, stop, fence, belongs, Nat.lt_succ_of_lt closed, same⟩
  | none =>
    intro start stop fence outside region closed behind
    rcases Nat.lt_or_eq_of_le (Nat.le_of_lt_succ closed) with earlier | rfl
    · exact held start stop fence outside region earlier behind
    · exact apart start fence outside region behind

theorem IsStepAt.succ {step : Step} (held : IsStepAt offset lines bound index step)
    (apart : ∀ start fence, Outside lines start → Encloses lines start bound fence →
      index < start → ∃ other, index < other ∧ other < start ∧ IsStepLine lines other) :
    IsStepAt offset lines (bound + 1) index step :=
  ⟨held.tells, held.line, held.snippet.succ apart⟩

namespace AreUpTo

theorem exact_succ (steps : AreUpTo offset lines bound indexes done)
    (noStep : ¬ IsStepLine lines bound) (index : Nat) :
    index ∈ indexes ↔ index < bound + 1 ∧ IsStepLine lines index := by
  rw [steps.exact]
  refine and_congr_left fun step => ⟨Nat.lt_succ_of_lt, fun before => ?_⟩
  refine Nat.lt_of_le_of_ne (Nat.le_of_lt_succ before) ?_
  rintro rfl
  exact noStep step

theorem silent (steps : AreUpTo offset lines bound indexes done)
    (noEnd : ∀ start fence, Outside lines start → ¬ Encloses lines start bound fence)
    (noStep : ¬ IsStepLine lines bound) : AreUpTo offset lines (bound + 1) indexes done where
  order := steps.order
  exact := steps.exact_succ noStep
  steps := steps.steps.imp fun _ _ held =>
    held.succ fun start fence outside region => absurd region (noEnd start fence outside)

/-- A line that is a step is the last one, and no region has ended behind it. -/
theorem step {number : Option Nat} {text : Text} (steps : AreUpTo offset lines bound indexes done)
    (noEnd : ∀ start fence, Outside lines start → ¬ Encloses lines start bound fence)
    (told : TellsAt lines bound number text) :
    AreUpTo offset lines (bound + 1) (bound :: indexes)
      (⟨number, text, none, some (offset + bound)⟩ :: done) where
  order := List.pairwise_cons.mpr
    ⟨fun index member => ((steps.exact index).mp member).1, steps.order⟩
  exact index := by
    rw [List.mem_cons, steps.exact]
    constructor
    · rintro (rfl | ⟨before, step⟩)
      · exact ⟨Nat.lt_succ_self _, number, text, told⟩
      · exact ⟨Nat.lt_succ_of_lt before, step⟩
    · rintro ⟨before, step⟩
      rcases Nat.lt_or_eq_of_le (Nat.le_of_lt_succ before) with earlier | rfl
      · exact .inr ⟨earlier, step⟩
      · exact .inl rfl
  steps := by
    refine .cons ⟨told, rfl, fun start stop fence _ region closed behind => ?_⟩
      (steps.steps.imp fun _ _ held =>
        held.succ fun start fence outside region => absurd region (noEnd start fence outside))
    have later := region.behind
    omega

/-- The region that ends behind the last step begins before any other step and is the first one
behind it, if none has ended there before. -/
theorem belongs (order : ∀ index ∈ indexes, index < last)
    (exact : ∀ index, index ∈ last :: indexes ↔ index < bound ∧ IsStepLine lines index)
    (none' : HasSnippet offset lines bound last none) (outside : Outside lines start)
    (region : Encloses lines start bound fence) : Belongs lines last start bound fence := by
  obtain ⟨inside, lastStep⟩ := (exact last).mp List.mem_cons_self
  have noStep (other : Nat) (behind : last < other) (before : other < start) :
      ¬ IsStepLine lines other := by
    intro step
    have ends := region.behind
    rcases List.mem_cons.mp ((exact other).mpr ⟨by omega, step⟩) with rfl | member
    · omega
    · have earlier := order other member
      omega
  refine ⟨outside, region, region.lt_start outside lastStep (Nat.le_of_lt inside), noStep, ?_⟩
  intro start' stop' fence' outside' region' behind
  refine Nat.le_of_not_lt fun earlier => ?_
  have ended : stop' < start := Nat.lt_of_not_le fun reaches =>
    region'.not_outside outside' earlier reaches outside
  have ends := region.behind
  obtain ⟨other, after, before, step⟩ :=
    none' start' stop' fence' outside' region' (by omega) behind
  exact noStep other after (by omega) step

/-- A region that ends goes to the last step, if that has none yet. -/
theorem attach (steps : AreUpTo offset lines bound indexes done) (outside : Outside lines start)
    (region : Encloses lines start bound fence) :
    AreUpTo offset lines (bound + 1) indexes
      (attach (blockOf offset lines start bound fence) done) where
  order := steps.order
  exact := steps.exact_succ fun ⟨_, _, other, _⟩ =>
    region.not_outside outside region.behind (Nat.le_refl bound) other
  steps := by
    obtain ⟨order, exact, held⟩ := steps
    cases held with
    | nil => exact .nil
    | @cons last step indexes done own before =>
      obtain ⟨later, -⟩ := List.pairwise_cons.mp order
      obtain ⟨inside, lastStep⟩ := (exact last).mp List.mem_cons_self
      have others : List.Forall₂ (IsStepAt offset lines (bound + 1)) indexes done := by
        refine ((List.forall₂_and_left _ _).mpr ⟨later, before⟩).imp fun index step held => ?_
        refine held.2.succ fun start fence outside region _ => ?_
        exact ⟨last, held.1, region.lt_start outside lastStep (Nat.le_of_lt inside), lastStep⟩
      obtain ⟨number, text, snippet, line⟩ := step
      cases snippet with
      | none =>
        have belongs := belongs later exact own.snippet outside region
        exact .cons ⟨own.tells, own.line, start, bound, fence, belongs, Nat.lt_succ_self _, rfl⟩
          others
      | some block =>
        obtain ⟨start, stop, fence, belongs, closed, same⟩ := own.snippet
        exact .cons
          ⟨own.tells, own.line, start, stop, fence, belongs, Nat.lt_succ_of_lt closed, same⟩ others

end AreUpTo

/-! ### All lines -/

theorem stepsFrom_nil (offset : Int) (before : Option Fence) (done : List Step) :
    stepsFrom offset bound before done [] = .ok done.reverse := by
  cases before <;> rfl

theorem drop_succ (left : lines.drop bound = line :: rest) :
    lines[bound]? = some line ∧ lines.drop (bound + 1) = rest := by
  constructor
  · rw [← Nat.add_zero bound, ← List.getElem?_drop, left]
    rfl
  · rw [← List.drop_drop, left]
    rfl

/-- The steps that are found in the end, from those of so many lines. -/
theorem exists_areUpTo (left : lines.drop bound = rest) (within : bound ≤ lines.length)
    (steps : AreUpTo offset lines bound indexes done)
    (read : stepsFrom offset bound (openAt lines bound) done rest = .ok found) :
    ∃ indexes, AreUpTo offset lines lines.length indexes found.reverse := by
  induction rest generalizing bound indexes done with
  | nil =>
    have past := List.drop_eq_nil_iff.mp left
    obtain rfl : bound = lines.length := by omega
    rw [stepsFrom_nil] at read
    obtain rfl := Except.ok.inj read
    exact ⟨indexes, by rwa [List.reverse_reverse]⟩
  | cons line rest inductionHypothesis =>
    obtain ⟨foundLine, left'⟩ := drop_succ left
    have within' : bound + 1 ≤ lines.length := (List.getElem?_eq_some_iff.mp foundLine).1
    cases passes offset foundLine rest with
    | closing start fence outside region goes =>
      rw [goes] at read
      exact inductionHypothesis left' within' (steps.attach outside region) read
    | silent noEnd noStep _ goes =>
      rw [goes] at read
      exact inductionHypothesis left' within' (steps.silent noEnd noStep) read
    | outside noEnd outside goes =>
      rw [goes] at read
      obtain ⟨step?, own, read⟩ := exists_of_bind_ok read
      have taken := taken_stepOf? offset bound line
      rw [own] at taken
      cases taken with
      | silent _ silent =>
        refine inductionHypothesis left' within' (steps.silent noEnd ?_) read
        rintro ⟨number, text, -, other, foundOther, told⟩
        obtain rfl := Option.some.inj (foundLine.symm.trans foundOther)
        exact silent number text told
      | step _ number text told =>
        exact inductionHypothesis left' within'
          (steps.step noEnd ⟨outside, line, foundLine, told⟩) read

/-- The scan comes to its end exactly if the number of each line outside is short enough. -/
theorem exists_stepsFrom_iff (left : lines.drop bound = rest) (done : List Step) :
    (∃ found, stepsFrom offset bound (openAt lines bound) done rest = .ok found) ↔
      ∀ index line, bound ≤ index → Outside lines index → lines[index]? = some line →
        Fits line := by
  induction rest generalizing bound done with
  | nil =>
    rw [stepsFrom_nil]
    refine iff_of_true ⟨_, rfl⟩ fun index line later _ found => ?_
    have past := List.drop_eq_nil_iff.mp left
    have inside := (List.getElem?_eq_some_iff.mp found).1
    omega
  | cons line rest inductionHypothesis =>
    obtain ⟨found, left'⟩ := drop_succ left
    have split : (∀ index line, bound ≤ index → Outside lines index →
        lines[index]? = some line → Fits line) ↔ (Outside lines bound → Fits line) ∧
          ∀ index line, bound + 1 ≤ index → Outside lines index →
            lines[index]? = some line → Fits line := by
      constructor
      · exact fun all => ⟨fun outside => all bound line (Nat.le_refl bound) outside found,
          fun index other later => all index other (Nat.le_of_succ_le later)⟩
      · rintro ⟨own, others⟩ index other later outside foundOther
        rcases Nat.lt_or_eq_of_le later with behind | rfl
        · exact others index other behind outside foundOther
        · exact Option.some.inj (found.symm.trans foundOther) ▸ own outside
    rw [split]
    cases passes offset found rest with
    | closing start fence outside region goes =>
      have inside : ¬ Outside lines bound :=
        region.not_outside outside region.behind (Nat.le_refl bound)
      rw [goes, inductionHypothesis left', and_iff_right fun other => absurd other inside]
    | silent _ _ fits goes => rw [goes, inductionHypothesis left', and_iff_right fits]
    | outside _ outside goes =>
      rw [goes]
      have taken := taken_stepOf? offset bound line
      generalize stepOf? offset bound line = outcome at taken
      cases taken with
      | silent fits _ =>
        rw [and_iff_right fun _ => fits]
        exact inductionHypothesis left' done
      | step fits number text _ =>
        rw [and_iff_right fun _ => fits]
        exact inductionHypothesis left' (⟨number, text, none, some (offset + bound)⟩ :: done)
      | refused long refusal =>
        refine iff_of_false ?_ fun all => long (all.1 outside)
        rintro ⟨_, other⟩
        cases other

theorem areUpTo_zero : AreUpTo offset lines 0 [] [] :=
  ⟨.nil, fun index => by simp, .nil⟩

/-! ### Snippets -/

/-- Two steps that have the same region are one. -/
theorem Belongs.unique {other stop' : Nat} {fence' : Fence}
    (belongs : Belongs lines index start stop fence)
    (belongs' : Belongs lines other start stop' fence') (step : IsStepLine lines index)
    (step' : IsStepLine lines other) : index = other := by
  rcases Nat.lt_trichotomy index other with earlier | same | later
  · exact absurd step' (belongs.noStep other earlier belongs'.behind)
  · exact same
  · exact absurd step (belongs'.noStep index later belongs.behind)

/-- Where the block of a step begins, if it has one: the region of the step begins there. -/
theorem IsStepAt.exists_belongs {step : Step} {block : CodeBlock}
    (held : IsStepAt offset lines bound index step) (snippet : step.snippet = some block) :
    ∃ start stop fence, Belongs lines index start stop fence ∧
      block.line = some (offset + (start : Int)) := by
  have has := held.snippet
  rw [snippet] at has
  obtain ⟨start, stop, fence, belongs, -, rfl⟩ := has
  exact ⟨start, stop, fence, belongs, rfl⟩

theorem exists_isStepAt {step : Step}
    (steps : List.Forall₂ (IsStepAt offset lines bound) indexes found) (member : step ∈ found) :
    ∃ index ∈ indexes, IsStepAt offset lines bound index step := by
  induction steps with
  | nil => cases member
  | @cons index first indexes found own _ inductionHypothesis =>
    rcases List.mem_cons.mp member with rfl | behind
    · exact ⟨index, List.mem_cons_self, own⟩
    · obtain ⟨other, among, held⟩ := inductionHypothesis behind
      exact ⟨other, List.mem_cons_of_mem index among, held⟩

theorem IsStepAt.isStepLine {step : Step} (held : IsStepAt offset lines bound index step) :
    IsStepLine lines index := ⟨_, _, held.tells⟩

theorem nodup_snippets (order : indexes.Pairwise (· < ·))
    (steps : List.Forall₂ (IsStepAt offset lines bound) indexes found) :
    ((found.filterMap (·.snippet)).map (·.line)).Nodup := by
  rw [List.Nodup, List.pairwise_map, List.pairwise_filterMap]
  induction steps with
  | nil => exact .nil
  | @cons index step indexes found own others inductionHypothesis =>
    obtain ⟨earlier, order⟩ := List.pairwise_cons.mp order
    refine List.pairwise_cons.mpr ⟨fun other member block snippet block' snippet' same => ?_,
      inductionHypothesis order⟩
    obtain ⟨index', among, held⟩ := exists_isStepAt others member
    obtain ⟨start, stop, fence, belongs, line⟩ := own.exists_belongs snippet
    obtain ⟨start', stop', fence', belongs', line'⟩ := held.exists_belongs snippet'
    obtain rfl : start = start' := by
      rw [line, line', Option.some.injEq] at same
      omega
    exact Nat.ne_of_lt (earlier index' among)
      (belongs.unique belongs' own.isStepLine held.isStepLine)

/-- The scan for steps comes to its end exactly if no line outside of all regions has a number with
too many digits. Then it finds the steps of the lines: each line outside that says one, in order,
with its number, its text and its line, and with the first region that is closed behind it and
begins before the next step. No region is the snippet of two steps, or of one behind it. -/
theorem isScan_steps (offset : Int) (lines : List Text) :
    ((∃ found, steps offset lines = .ok found) ↔
        ∀ index line, Outside lines index → lines[index]? = some line → Fits line) ∧
      ∀ found, steps offset lines = .ok found → IsScan offset lines found := by
  refine ⟨?_, fun found read => ?_⟩
  · have whole : lines.drop 0 = lines := rfl
    refine (exists_stepsFrom_iff whole []).trans ?_
    simp only [Nat.zero_le, true_imp_iff]
  · obtain ⟨indexes, order, exact, held⟩ :=
      exists_areUpTo rfl (Nat.zero_le _) areUpTo_zero read
    have order' : indexes.reverse.Pairwise (· < ·) := List.pairwise_reverse.mpr order
    have held' : List.Forall₂ (IsStepAt offset lines lines.length) indexes.reverse found := by
      simpa using List.rel_reverse held
    refine ⟨⟨indexes.reverse, order', fun index => ?_, held'⟩, nodup_snippets order' held', ?_⟩
    · rw [List.mem_reverse, exact]
      refine and_iff_right_of_imp ?_
      rintro ⟨_, _, -, line, foundLine, -⟩
      exact (List.getElem?_eq_some_iff.mp foundLine).1
    · intro step member block snippet
      obtain ⟨index, -, own⟩ := exists_isStepAt held' member
      obtain ⟨start, stop, fence, belongs, line⟩ := own.exists_belongs snippet
      have behind := belongs.behind
      exact ⟨offset + index, offset + start, own.line, line, by omega⟩

example : (steps 3 (["1. Add x", "  ~~~ts", "    a", "2. b", "~~~~", "~~~", "c", "~~~", "* none",
      "- copy it ", "~~~", "3. d"].map String.toList)).toOption =
    some [⟨some 1, "Add x".toList, some ⟨"ts".toList, "  a\n2. b\n".toList, some 4⟩, some 3⟩,
      ⟨none, "copy it".toList, none, some 12⟩] := by
  decide +kernel

end GuidedMigration.Guide
