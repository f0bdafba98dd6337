/-
This file follows the fenced regions of a guide line by line. Which region is open before a line
depends on the lines before it alone, so lines that start where no region is open are scanned as if
nothing stood before them. A step is a line outside of all regions, and its snippet is a region that
is closed.

It also says which texts are well fenced: those whose fences any reader of Markdown finds where the
scan for steps finds them. A fence is indented by at most three spaces, the lines between two fences
are at least as far indented, and outside of fenced regions no line hides a fence behind the marks
of quotes and list items, starts HTML, or is nested more deeply than the dialect allows.
-/
import GuidedMigration.Guide.Document
import GuidedMigration.Proofs.Markdown.Margin
import GuidedMigration.Proofs.Yaml.Keyed

namespace GuidedMigration.Guide

open Text

variable {lines : List Text} {line : Text} {index : Nat} {fence opening : Fence}

/-! ### Open regions -/

/-- The region that is open behind a line, given the one that is open before it. -/
def openBehind (index : Nat) (before : Option Fence) (line : Text) : Option Fence :=
  match before with
  | some fence =>
    if fence.isClosedBy line then none else some { fence with body := line :: fence.body }
  | none => opens? index line

/-- The region that is open before the line at an index. -/
def openAt (lines : List Text) : Nat → Option Fence
  | 0 => none
  | index + 1 => match lines[index]? with
    | some line => openBehind index (openAt lines index) line
    | none => openAt lines index

theorem openAt_succ (found : lines[index]? = some line) :
    openAt lines (index + 1) = openBehind index (openAt lines index) line := by
  rw [openAt, found]

/-- Whether a region begins at a line. -/
def Begins (lines : List Text) (index : Nat) (opening : Fence) : Prop :=
  openAt lines index = none ∧ ∃ line, lines[index]? = some line ∧ opens? index line = some opening

/-- Whether a line is in no region and begins none. -/
def IsFree (lines : List Text) (index : Nat) : Prop :=
  openAt lines index = none ∧ ∃ line, lines[index]? = some line ∧ opens? index line = none

/-- Whether the line at an index closes a region. -/
def Closes (lines : List Text) (index : Nat) (fence : Fence) : Prop :=
  openAt lines index = some fence ∧ ∃ line, lines[index]? = some line ∧ fence.isClosedBy line = true

theorem openAt_succ_of_free (free : IsFree lines index) : openAt lines (index + 1) = none := by
  obtain ⟨outside, line, found, none'⟩ := free
  rw [openAt_succ found, outside]
  exact none'

theorem not_closes (outside : openAt lines index = none) : ¬ Closes lines index fence := by
  rintro ⟨opened, -⟩
  rw [outside] at opened
  cases opened

theorem openAt_succ_of_closes (closes : Closes lines index fence) :
    openAt lines (index + 1) = none := by
  obtain ⟨opened, line, found, closed⟩ := closes
  rw [openAt_succ found, opened, openBehind, if_pos closed]

theorem not_free_of_begins (begins : Begins lines index opening) : ¬ IsFree lines index := by
  rintro ⟨-, line, found, none'⟩
  obtain ⟨-, other, found', opened⟩ := begins
  obtain rfl := Option.some.inj (found.symm.trans found')
  rw [none'] at opened
  cases opened

/-- Where no region is open, a line is free or begins one. -/
theorem free_or_begins (outside : openAt lines index = none) (inside : index < lines.length) :
    IsFree lines index ∨ ∃ opening, Begins lines index opening := by
  have found := List.getElem?_eq_getElem inside
  cases opened : opens? index lines[index] with
  | none => exact .inl ⟨outside, _, found, opened⟩
  | some opening => exact .inr ⟨opening, outside, _, found, opened⟩

/-- A line is free if no region is open before and behind it. -/
theorem isFree_of_openAt (outside : openAt lines index = none)
    (behind : openAt lines (index + 1) = none) (inside : index < lines.length) :
    IsFree lines index := by
  rcases free_or_begins outside inside with free | ⟨opening, -, line, found, opened⟩
  · exact free
  · rw [openAt_succ found, outside, openBehind, opened] at behind
    cases behind

theorem start_of_opens? (opened : opens? index line = some opening) :
    opening.start = index ∧ opening.body = [] := by
  rw [opens?] at opened
  dsimp only at opened
  split at opened
  · split at opened
    · rw [← Option.some.inj opened]
      exact ⟨rfl, rfl⟩
    · simp at opened
  · simp at opened

/-- A region that begins, as it is before the line at a later index. -/
def Fence.upTo (lines : List Text) (index : Nat) (opening : Fence) : Fence :=
  { opening with body := ((lines.take index).drop (opening.start + 1)).reverse }

theorem Fence.upTo_start_succ (empty : opening.body = []) :
    opening.upTo lines (opening.start + 1) = opening := by
  rw [upTo, List.drop_of_length_le (by rw [List.length_take]; omega), List.reverse_nil, ← empty]

theorem Fence.upTo_succ (found : lines[index]? = some line) (behind : opening.start < index) :
    opening.upTo lines (index + 1) =
      { opening with body := line :: (opening.upTo lines index).body } := by
  have inside := (List.getElem?_eq_some_iff.mp found).1
  have longer : lines.take (index + 1) = lines.take index ++ [line] := by
    rw [List.take_add_one, found]
    rfl
  rw [upTo, longer, List.drop_append_of_le_length (by rw [List.length_take]; omega),
    List.reverse_append]
  rfl

theorem Fence.upTo_behindLast (past : lines[index]? = none) :
    opening.upTo lines (index + 1) = opening.upTo lines index := by
  have short := List.getElem?_eq_none_iff.mp past
  rw [upTo, upTo, List.take_of_length_le short, List.take_of_length_le (by omega)]

/-- Whether a region that begins is open up to an index. -/
structure IsRegion (lines : List Text) (opening : Fence) (index : Nat) : Prop where
  begins : Begins lines opening.start opening
  reaches : opening.start < index
  opened : ∀ between, opening.start < between → between ≤ index →
    openAt lines between = some (opening.upTo lines between)

namespace IsRegion

theorem single (begins : Begins lines opening.start opening) :
    IsRegion lines opening (opening.start + 1) where
  begins := begins
  reaches := Nat.lt_succ_self _
  opened between behind within := by
    obtain ⟨outside, line, found, opened⟩ := begins
    obtain rfl : between = opening.start + 1 := by omega
    rw [openAt_succ found, outside, Fence.upTo_start_succ (start_of_opens? opened).2]
    exact opened

/-- A line that does not close a region goes on with it. -/
theorem succ (region : IsRegion lines opening index) (found : lines[index]? = some line)
    (goesOn : opening.isClosedBy line = false) : IsRegion lines opening (index + 1) where
  begins := region.begins
  reaches := Nat.lt_succ_of_lt region.reaches
  opened between behind within := by
    rcases Nat.lt_or_eq_of_le within with earlier | rfl
    · exact region.opened between behind (Nat.le_of_lt_succ earlier)
    · rw [openAt_succ found, region.opened index region.reaches (Nat.le_refl index), openBehind]
      have same : (opening.upTo lines index).isClosedBy line = false := goesOn
      rw [same, if_neg Bool.false_ne_true, Fence.upTo_succ found region.reaches]
      rfl

/-- Behind the last line a region stays as it is. -/
theorem behindLast (region : IsRegion lines opening index) (past : lines[index]? = none) :
    IsRegion lines opening (index + 1) where
  begins := region.begins
  reaches := Nat.lt_succ_of_lt region.reaches
  opened between behind within := by
    rcases Nat.lt_or_eq_of_le within with earlier | rfl
    · exact region.opened between behind (Nat.le_of_lt_succ earlier)
    · rw [openAt, past, Fence.upTo_behindLast past]
      exact region.opened index region.reaches (Nat.le_refl index)

/-- No line of a region but the last one closes it. -/
theorem isClosedBy_eq_false {between : Nat} (region : IsRegion lines opening index)
    (behind : opening.start < between) (within : between < index)
    (found : lines[between]? = some line) : opening.isClosedBy line = false := by
  have next := region.opened (between + 1) (by omega) within
  rw [openAt_succ found, region.opened between behind (by omega), openBehind] at next
  refine eq_false_of_ne_true fun closed => ?_
  rw [if_pos (show (opening.upTo lines between).isClosedBy line = true from closed)] at next
  cases next

end IsRegion

/-- An open region is one that has begun before. -/
theorem exists_isRegion (opened : openAt lines index = some fence) :
    ∃ opening, IsRegion lines opening index ∧ fence = opening.upTo lines index := by
  induction index generalizing fence with
  | zero => simp [openAt] at opened
  | succ index inductionHypothesis =>
    cases found : lines[index]? with
    | none =>
      rw [openAt, found] at opened
      obtain ⟨opening, region, same⟩ := inductionHypothesis opened
      exact ⟨opening, region.behindLast found, same.trans (Fence.upTo_behindLast found).symm⟩
    | some line =>
      rw [openAt_succ found] at opened
      cases before : openAt lines index with
      | none =>
        rw [before] at opened
        obtain ⟨rfl, empty⟩ := start_of_opens? opened
        exact ⟨fence, .single ⟨before, line, found, opened⟩, (Fence.upTo_start_succ empty).symm⟩
      | some earlier =>
        obtain ⟨opening, region, rfl⟩ := inductionHypothesis before
        rw [before, openBehind] at opened
        split at opened
        · cases opened
        · rename_i goesOn
          refine ⟨opening, region.succ found (eq_false_of_ne_true goesOn), ?_⟩
          rw [← Option.some.inj opened, Fence.upTo_succ found region.reaches]
          rfl

/-- Lines between two indexes of which none begins a region are outside of all regions if the first
one is. -/
theorem openAt_eq_none_of_le {other : Nat} (outside : openAt lines index = none)
    (later : index ≤ other)
    (none' : ∀ between, index ≤ between → between < other → ∀ opening,
      ¬ Begins lines between opening) :
    openAt lines other = none := by
  induction later with
  | refl => exact outside
  | @step other later inductionHypothesis =>
    have here := inductionHypothesis fun between from' before => none' between from' (by omega)
    cases found : lines[other]? with
    | none => rw [openAt, found, here]
    | some line =>
      have inside := (List.getElem?_eq_some_iff.mp found).1
      rcases free_or_begins here inside with free | ⟨opening, begins⟩
      · exact openAt_succ_of_free free
      · exact absurd begins (none' other later (Nat.lt_succ_self other) opening)

/-! ### Lines behind others -/

/-- A region whose lines are counted from so many lines before. -/
def Fence.shift (count : Nat) (fence : Fence) : Fence := { fence with start := count + fence.start }

theorem opens?_shift (count index : Nat) (line : Text) :
    opens? (count + index) line = (opens? index line).map (·.shift count) := by
  rw [opens?, opens?]
  split
  · dsimp only
    split <;> rfl
  · rfl

theorem getElem?_of_part {rows : List Text} {start : Nat} (part : rows <+: lines.drop start)
    (found : rows[index]? = some line) : lines[start + index]? = some line := by
  obtain ⟨inside, rfl⟩ := List.getElem?_eq_some_iff.mp found
  rw [← List.getElem?_drop]
  exact (List.prefix_iff_getElem?.mp part) index inside

section Behind

variable {rows : List Text} {start : Nat} (outside : openAt lines start = none)
  (part : rows <+: lines.drop start)
include outside part

/-- Lines that follow lines behind which no region is open have the regions that they have alone. -/
theorem openAt_drop (within : index ≤ rows.length) :
    openAt lines (start + index) = (openAt rows index).map (·.shift start) := by
  induction index with
  | zero => rw [Nat.add_zero, outside, openAt, Option.map_none]
  | succ index inductionHypothesis =>
    have found : rows[index]? = some rows[index] := List.getElem?_eq_getElem within
    rw [← Nat.add_assoc, openAt_succ (getElem?_of_part part found), openAt_succ found,
      inductionHypothesis (by omega)]
    cases openAt rows index with
    | none => exact opens?_shift start index _
    | some fence =>
      simp only [Option.map_some, openBehind]
      have same : (fence.shift start).isClosedBy rows[index] = fence.isClosedBy rows[index] := rfl
      rw [same]
      split <;> rfl

theorem IsFree.among (free : IsFree rows index) : IsFree lines (start + index) := by
  obtain ⟨outside', line, found, none'⟩ := free
  have within := (List.getElem?_eq_some_iff.mp found).1
  refine ⟨?_, line, getElem?_of_part part found, ?_⟩
  · rw [openAt_drop outside part (Nat.le_of_lt within), outside', Option.map_none]
  · rw [opens?_shift, none', Option.map_none]

theorem Closes.among (closes : Closes rows index fence) :
    Closes lines (start + index) (fence.shift start) := by
  obtain ⟨opened, line, found, closed⟩ := closes
  have within := (List.getElem?_eq_some_iff.mp found).1
  refine ⟨?_, line, getElem?_of_part part found, closed⟩
  rw [openAt_drop outside part (Nat.le_of_lt within), opened, Option.map_some]

end Behind

/-! ### Steps -/

/-- What a step of lines is, of which the first is line `offset` of a guide: its line is free, and
its snippet is a region that is closed. -/
structure IsStep (offset : Int) (lines : List Text) (step : Step) : Prop where
  line : ∃ index : Nat, step.line = some (offset + index) ∧ IsFree lines index
  snippet : ∀ block, step.snippet = some block →
    ∃ index fence, Closes lines index fence ∧ block = fence.block offset

/-- A step of lines that follow others, among all of them. -/
theorem IsStep.among {rows : List Text} {start : Nat} {step : Step}
    (outside : openAt lines start = none) (part : rows <+: lines.drop start)
    (held : IsStep start rows step) : IsStep 0 lines step where
  line := by
    obtain ⟨index, line, free⟩ := held.line
    exact ⟨start + index, by rw [line, Int.zero_add, Int.natCast_add], free.among outside part⟩
  snippet block attached := by
    obtain ⟨index, fence, closes, rfl⟩ := held.snippet block attached
    refine ⟨start + index, fence.shift start, closes.among outside part, ?_⟩
    rw [Fence.block, Fence.block, Fence.shift, Int.zero_add, Int.natCast_add]
    rfl

theorem isStep_of_attach {offset : Int} {block : CodeBlock} {done : List Step}
    (steps : ∀ step ∈ done, IsStep offset lines step)
    (closed : ∃ index fence, Closes lines index fence ∧ block = fence.block offset) :
    ∀ step ∈ attach block done, IsStep offset lines step := by
  cases done with
  | nil => simp [attach]
  | cons last done =>
    intro step member
    rcases List.mem_cons.mp member with rfl | before
    · have held := steps last List.mem_cons_self
      split
      · refine ⟨held.line, fun other same => ?_⟩
        rw [← Option.some.inj same]
        exact closed
      · exact held
    · exact steps step (List.mem_cons_of_mem _ before)

theorem isStep_of_stepOf? {offset : Int} {step : Step} (free : IsFree lines index)
    (read : stepOf? offset index line = .ok (some step)) : IsStep offset lines step := by
  rw [stepOf?] at read
  split at read
  · obtain ⟨_, -, read⟩ := exists_of_bind_ok read
    obtain rfl := Option.some.inj (Except.ok.inj read)
    exact ⟨⟨index, rfl, free⟩, fun block none' => by simp at none'⟩
  · split at read
    · split at read
      · obtain rfl := Option.some.inj (Except.ok.inj read)
        exact ⟨⟨index, rfl, free⟩, fun block none' => by simp at none'⟩
      · simp at read
    · simp at read

/-- The steps found among lines, those of which so many have been read already. -/
theorem isStep_of_stepsFrom {offset : Int} {done steps : List Step} {rest : List Text}
    (left : lines.drop index = rest) (before : ∀ step ∈ done, IsStep offset lines step)
    (read : stepsFrom offset index (openAt lines index) done rest = .ok steps) :
    ∀ step ∈ steps, IsStep offset lines step := by
  induction rest generalizing index done with
  | nil =>
    have ended : (.ok done.reverse : Except LongInteger (List Step)) = .ok steps := by
      rw [← read]
      cases openAt lines index <;> rfl
    intro step member
    rw [← Except.ok.inj ended] at member
    exact before step (List.mem_reverse.mp member)
  | cons line rest inductionHypothesis =>
    have found : lines[index]? = some line := by
      rw [← Nat.add_zero index, ← List.getElem?_drop, left]
      rfl
    have left' : lines.drop (index + 1) = rest := by
      rw [← List.drop_drop, left]
      rfl
    have behind := openAt_succ found
    cases opened : openAt lines index with
    | some fence =>
      rw [opened, openBehind] at behind
      rw [opened, stepsFrom] at read
      split at read
      · rename_i closed
        rw [if_pos closed] at behind
        rw [← behind] at read
        exact inductionHypothesis left'
          (isStep_of_attach before ⟨index, fence, ⟨opened, line, found, closed⟩, rfl⟩) read
      · rename_i closed
        rw [if_neg closed] at behind
        rw [← behind] at read
        exact inductionHypothesis left' before read
    | none =>
      rw [opened, openBehind] at behind
      rw [opened, stepsFrom] at read
      cases opens : opens? index line with
      | some fence =>
        rw [opens] at read behind
        dsimp only at read behind
        rw [← behind] at read
        exact inductionHypothesis left' before read
      | none =>
        rw [opens] at read behind
        dsimp only at read behind
        obtain ⟨step?, own, read⟩ := exists_of_bind_ok read
        rw [← behind] at read
        refine inductionHypothesis left' (fun step member => ?_) read
        rcases List.mem_append.mp member with mine | earlier
        · rw [Option.mem_toList] at mine
          rw [Option.mem_def.mp mine] at own
          exact isStep_of_stepOf? ⟨opened, line, found, opens⟩ own
        · exact before step earlier

theorem isStep_of_steps {offset : Int} {steps : List Step}
    (read : Guide.steps offset lines = .ok steps) : ∀ step ∈ steps, IsStep offset lines step :=
  @isStep_of_stepsFrom lines 0 offset [] steps lines rfl (by simp) read

end GuidedMigration.Guide

namespace GuidedMigration.Guide

open Text Markdown

variable {lines : List Text} {line : Text} {index : Nat} {fence opening : Fence}
  {dialect : Dialect}

/-! ### Well-set lines -/

/-- Whether a line outside of all regions is read alike: behind the marks and blanks at its start
there is neither a fence nor a block of HTML, and the blocks in it are not too deep. -/
def isPlainLine (dialect : Dialect) (line : Text) : Bool :=
  let core := line.dropWhile isMarginal
  !startsWith "\x60\x60\x60".toList core && !startsWith "~~~".toList core &&
    (!dialect.html || (Tag.blockEnding? core).isNone) && nesting line < dialect.depth

/-- Whether a line that opens a region is a fence for everyone: it is indented by at most three
spaces, which is not too deep, and what is said behind its marks has no backtick, no bar if there
are tables, and no blanks but spaces. -/
def Fence.isWellOpened (dialect : Dialect) (line : Text) (fence : Fence) : Bool :=
  fence.indent ≤ 3 && fence.indent < dialect.depth &&
    (line.drop (fence.indent + fence.size)).all fun char =>
      char != '\x60' && !(dialect.tables && char = '|') && (!isBlank char || char = ' ')

/-- Whether a line inside of a region has its indentation, as far as it is long enough. -/
def Fence.isWellFilled (line : Text) (fence : Fence) : Bool :=
  (line.take fence.indent).all (· = ' ')

/-- Whether a line that closes a region is a fence for everyone: it is indented at least as far as
the region, by at most three spaces, and behind its marks are only spaces and tabs. -/
def Fence.isWellClosed (line : Text) (fence : Fence) : Bool :=
  let margin := (line.takeWhile (· = ' ')).length
  fence.indent ≤ margin && margin ≤ 3 &&
    ((line.drop margin).dropWhile (· = fence.mark)).all isSpaceOrTab

/-- Whether a line is well set, given the region that is open before it. -/
def isWellSet (dialect : Dialect) (index : Nat) (before : Option Fence) (line : Text) : Bool :=
  match before with
  | some fence => if fence.isClosedBy line then fence.isWellClosed line else fence.isWellFilled line
  | none => match opens? index line with
    | some fence => fence.isWellOpened dialect line
    | none => isPlainLine dialect line

/-- Whether all lines from one on are well set. -/
def areWellSet (dialect : Dialect) : Nat → Option Fence → List Text → Bool
  | _, _, [] => true
  | index, before, line :: rest =>
    isWellSet dialect index before line &&
      areWellSet dialect (index + 1) (openBehind index before line) rest

/-- Whether a text has no line breaks but newlines and carriage returns, and no null character. -/
def isPlainlyBroken (text : Text) : Bool :=
  text.all fun char => char.toNat != 0 && (!isLineBreak char || char = '\n' || char = '\r')

/-- Whether a text is well fenced: it is plainly broken, and its lines are well set. -/
def isWellFenced (dialect : Dialect) (text : Text) : Bool :=
  isPlainlyBroken text && areWellSet dialect 0 none (Text.lines text)

theorem isWellSet_of_areWellSet {rest : List Text} (left : lines.drop index = rest)
    (set : areWellSet dialect index (openAt lines index) rest = true) {other : Nat}
    (later : index ≤ other) (found : lines[other]? = some line) :
    isWellSet dialect other (openAt lines other) line = true := by
  induction rest generalizing index with
  | nil =>
    have past := List.drop_eq_nil_iff.mp left
    have inside := (List.getElem?_eq_some_iff.mp found).1
    omega
  | cons first rest inductionHypothesis =>
    rw [areWellSet, Bool.and_eq_true] at set
    have here : lines[index]? = some first := by
      rw [← Nat.add_zero index, ← List.getElem?_drop, left]
      rfl
    rcases Nat.lt_or_eq_of_le later with behind | rfl
    · refine inductionHypothesis ?_ (openAt_succ here ▸ set.2) behind
      show lines.drop (index + 1) = rest
      rw [← List.drop_drop, left]
      rfl
    · obtain rfl := Option.some.inj (here.symm.trans found)
      exact set.1

/-- Whether all lines are well set. -/
def AreSet (dialect : Dialect) (lines : List Text) : Prop :=
  ∀ index line, lines[index]? = some line →
    isWellSet dialect index (openAt lines index) line = true

namespace AreSet

variable (set : AreSet dialect lines)
include set

theorem isPlainLine (free : IsFree lines index) (found : lines[index]? = some line) :
    isPlainLine dialect line = true := by
  obtain ⟨outside, other, found', none'⟩ := free
  obtain rfl := Option.some.inj (found.symm.trans found')
  have held := set index line found
  rwa [outside, isWellSet, none'] at held

theorem isWellOpened (begins : Begins lines index opening) (found : lines[index]? = some line) :
    opening.isWellOpened dialect line = true := by
  obtain ⟨outside, other, found', opened⟩ := begins
  obtain rfl := Option.some.inj (found.symm.trans found')
  have held := set index line found
  rwa [outside, isWellSet, opened] at held

theorem isWellFilled (opened : openAt lines index = some fence) (found : lines[index]? = some line)
    (open' : fence.isClosedBy line = false) : fence.isWellFilled line = true := by
  have held := set index line found
  rwa [opened, isWellSet, open', if_neg Bool.false_ne_true] at held

theorem isWellClosed (closes : Closes lines index fence) (found : lines[index]? = some line) :
    fence.isWellClosed line = true := by
  obtain ⟨opened, other, found', closed⟩ := closes
  obtain rfl := Option.some.inj (found.symm.trans found')
  have held := set index line found
  rwa [opened, isWellSet, if_pos closed] at held

end AreSet

/-! ### Parts of a fence -/

/-- What is said behind the marks of a line that opens a region. -/
def Fence.info (line : Text) (fence : Fence) : Text := line.drop (fence.indent + fence.size)

theorem Fence.spec_of_isWellOpened (well : fence.isWellOpened dialect line = true) :
    fence.indent ≤ 3 ∧ fence.indent < dialect.depth ∧ ∀ char ∈ fence.info line,
      char ≠ '\x60' ∧ (dialect.tables = true → char ≠ '|') ∧
        (isBlank char = true → char = ' ') := by
  rw [isWellOpened, Bool.and_eq_true, Bool.and_eq_true, decide_eq_true_eq,
    decide_eq_true_eq] at well
  refine ⟨well.1.1, well.1.2, fun char member => ?_⟩
  have fits := List.all_eq_true.mp well.2 char member
  simp only [Bool.and_eq_true, Bool.or_eq_true, Bool.not_eq_true', Bool.and_eq_false_iff,
    decide_eq_true_eq, decide_eq_false_iff_not, bne_iff_ne] at fits
  obtain ⟨⟨noTick, noBar⟩, noBlank⟩ := fits
  refine ⟨noTick, fun tables => ?_, fun blank => ?_⟩
  · exact noBar.resolve_left (by simp [tables])
  · exact noBlank.resolve_left (by simp [blank])

/-- The language that words behind the marks of a fence name. -/
def languageOf (info : Text) : Text :=
  let language := (trimLeft info).takeWhile fun char => !isBlank char && char != '\x60'
  if language.isEmpty then "text".toList else lower language

/-- A line that opens a region consists of spaces, marks, and what is said behind them. -/
theorem parts_of_opens? (opened : opens? index line = some opening) :
    line = List.replicate opening.indent ' ' ++
        (List.replicate opening.size opening.mark ++ opening.info line) ∧
      (opening.info line).head? ≠ some opening.mark ∧
      (opening.mark = '\x60' ∨ opening.mark = '~') ∧ 3 ≤ opening.size ∧
      opening.language = languageOf (opening.info line) := by
  rw [opens?] at opened
  dsimp only at opened
  split at opened
  · rename_i mark tail shape
    split at opened
    · rename_i fits
      simp only [Bool.and_eq_true, Bool.or_eq_true, decide_eq_true_eq] at fits
      obtain rfl := Option.some.inj opened
      rw [Fence.info, ← List.drop_drop]
      refine ⟨?_, ?_, fits.1.1, fits.2, rfl⟩
      · rw [← takeWhile_eq_replicate, ← takeWhile_eq_replicate, drop_length_takeWhile (· = mark),
          List.takeWhile_append_dropWhile, drop_length_takeWhile, List.takeWhile_append_dropWhile]
      · rw [drop_length_takeWhile (· = mark)]
        have other := List.head?_dropWhile_not (fun char => decide (char = mark))
          (line.drop (line.takeWhile (· = ' ')).length)
        intro same
        rw [same] at other
        simp at other
    · simp at opened
  · simp at opened

end GuidedMigration.Guide
