/-
This file reads a whole text. The lines of a text whose only line breaks are newlines and carriage
returns are the rows in which blocks are looked for, but for a blank one at the end. So of a well
fenced text all regions that are closed are found as blocks of code.

It then compares the two readings of the fences of a guide: that of the scan for steps, which goes
through the lines of one section after the other, and that of the search for blocks in the whole
text. In a well fenced text they agree: no step stands in a block of fenced code, and the snippet of
a step is the one block at its line, so that a block is left out of the tasks of its own exactly if
an instruction uses it.
-/
import GuidedMigration.Migration.Guide
import GuidedMigration.Proofs.Guide.Found

namespace GuidedMigration.Guide

open Text Markdown

variable {lines : List Text} {text line : Text} {index : Nat} {dialect : Dialect}

/-! ### Lines and rows -/

theorem isPlainlyBroken_cons {char : Char} :
    isPlainlyBroken (char :: text) = true ↔
      (char.toNat ≠ 0 ∧ (isLineBreak char = true → char = '\n' ∨ char = '\r')) ∧
        isPlainlyBroken text = true := by
  rw [isPlainlyBroken, List.all_cons, Bool.and_eq_true, ← isPlainlyBroken]
  refine and_congr_left fun _ => ?_
  cases isLineBreak char <;> simp

theorem prepare_cons {char : Char} (fits : char.toNat ≠ 0)
    (notPair : ∀ rest, char = '\r' → text = '\n' :: rest → False) :
    Document.prepare (char :: text) =
      (if char = '\r' then '\n' else char) :: Document.prepare text := by
  rw [Document.prepare, unifyNewlines, List.map_cons, ← Document.prepare]
  · by_cases carriage : char = '\r'
    · rw [if_pos carriage]
      rfl
    · rw [if_neg carriage, if_neg fits]
  · exact notPair

/-- A character that breaks no line goes to the first row. -/
theorem splitOn_prepare_of_not_break {char : Char} (fits : char.toNat ≠ 0)
    (solid : isLineBreak char = false) :
    splitOn '\n' (Document.prepare (char :: text)) =
      match splitOn '\n' (Document.prepare text) with
        | [] => [[char]]
        | row :: rows => (char :: row) :: rows := by
  have noReturn : char ≠ '\r' := by
    rintro rfl
    exact absurd solid (by decide)
  have noNewline : char ≠ '\n' := by
    rintro rfl
    exact absurd solid (by decide)
  rw [prepare_cons fits fun _ same => absurd same noReturn, if_neg noReturn, splitOn]
  exact if_neg noNewline

/-- The lines of a plainly broken text are cut at the newlines of what blocks are looked for in. An
empty line may be left at the end. -/
theorem splitOn_prepare (broken : isPlainlyBroken text = true) :
    splitOn '\n' (Document.prepare text) = Text.lines text ∨
      splitOn '\n' (Document.prepare text) = Text.lines text ++ [[]] := by
  induction text using Text.lines.induct with
  | case1 => exact .inr rfl
  | case2 text inductionHypothesis =>
    rw [isPlainlyBroken_cons, isPlainlyBroken_cons] at broken
    have prepared : Document.prepare ('\r' :: '\n' :: text) = '\n' :: Document.prepare text := rfl
    rw [prepared, splitOn, if_pos rfl, Text.lines]
    exact (inductionHypothesis broken.2.2).imp (congrArg ([] :: ·)) (congrArg ([] :: ·))
  | case3 char text notPair breaks inductionHypothesis =>
    rw [isPlainlyBroken_cons] at broken
    have prepared : Document.prepare (char :: text) = '\n' :: Document.prepare text := by
      rw [prepare_cons broken.1.1 notPair]
      rcases broken.1.2 breaks with rfl | rfl <;> rfl
    rw [prepared, splitOn, if_pos rfl, Text.lines, if_pos breaks]
    · exact (inductionHypothesis broken.2).imp (congrArg ([] :: ·)) (congrArg ([] :: ·))
    · exact notPair
  | case4 char text notPair solid none' inductionHypothesis =>
    rw [isPlainlyBroken_cons] at broken
    have solid' : isLineBreak char = false := by simpa using solid
    rw [splitOn_prepare_of_not_break broken.1.1 solid', lines_cons_of_not_break solid', none']
    rw [none'] at inductionHypothesis
    rw [(inductionHypothesis broken.2).resolve_left (splitOn_ne_nil '\n' _)]
    exact .inl rfl
  | case5 char text notPair solid line rest cut inductionHypothesis =>
    rw [isPlainlyBroken_cons] at broken
    have solid' : isLineBreak char = false := by simpa using solid
    rw [splitOn_prepare_of_not_break broken.1.1 solid', lines_cons_of_not_break solid', cut]
    rw [cut] at inductionHypothesis
    rcases inductionHypothesis broken.2 with same | longer
    · rw [same]
      exact .inl rfl
    · rw [longer]
      exact .inr rfl

/-! ### Rows that show lines -/

/-- Whether rows show lines as they stand: all of them, except for a blank one at the end. -/
structure AreRows (lines : List Text) (rows : List Row) : Prop where
  size : rows.length ≤ lines.length
  shown : ∀ index line, lines[index]? = some line → index < rows.length →
    ∃ isClosed, rows[index]? = some (Row.ofLine line isClosed) ∧
      (isClosed = true ∨ index + 1 = rows.length ∧ line.all isSpaceOrTab = false)
  blank : ∀ index line, lines[index]? = some line → rows.length ≤ index →
    line.all isSpaceOrTab = true

namespace AreRows

theorem nil : AreRows [] [] where
  size := Nat.le_refl 0
  shown := by simp
  blank := by simp

theorem cons {rows : List Row} (rest : AreRows lines rows) (line : Text) :
    AreRows (line :: lines) (Row.ofLine line true :: rows) where
  size := Nat.succ_le_succ rest.size
  shown index other found inside := by
    cases index with
    | zero =>
      obtain rfl := Option.some.inj found
      exact ⟨true, rfl, .inl rfl⟩
    | succ index =>
      obtain ⟨isClosed, row, closed⟩ := rest.shown index other found (Nat.lt_of_succ_lt_succ inside)
      exact ⟨isClosed, row, closed.imp id fun last => ⟨congrArg (· + 1) last.1, last.2⟩⟩
  blank index other found past := by
    cases index with
    | zero => exact absurd past (by simp)
    | succ index => exact rest.blank index other found (Nat.le_of_succ_le_succ past)

theorem ofLines (lines : List Text) : AreRows lines (Row.ofLines lines) := by
  induction lines using Row.ofLines.induct with
  | case1 => exact nil
  | case2 line blank =>
    rw [Row.ofLines, if_pos blank]
    refine ⟨Nat.zero_le _, fun index other _ inside => absurd inside (by simp), ?_⟩
    intro index other found _
    obtain rfl : other = line := by simpa using List.mem_of_getElem? found
    exact blank
  | case3 line solid =>
    rw [Row.ofLines, if_neg solid]
    refine ⟨Nat.le_refl _, fun index other found inside => ?_, fun index other found past => ?_⟩
    · obtain rfl : index = 0 := by simpa using inside
      obtain rfl := Option.some.inj found
      exact ⟨false, rfl, .inr ⟨rfl, eq_false_of_ne_true solid⟩⟩
    · have inside := (List.getElem?_eq_some_iff.mp found).1
      simp at past inside
      omega
  | case4 line rest more inductionHypothesis =>
    rw [Row.ofLines]
    · exact inductionHypothesis.cons line
    · exact more

/-- An empty line at the end is not shown. -/
theorem ofLines_concat (lines : List Text) : AreRows lines (Row.ofLines (lines ++ [[]])) := by
  induction lines with
  | nil => exact nil
  | cons line lines inductionHypothesis =>
    rw [List.cons_append, Row.ofLines]
    · exact inductionHypothesis.cons line
    · simp

/-- The rows of a plainly broken text show its lines. -/
theorem ofText (broken : isPlainlyBroken text = true) :
    AreRows (Text.lines text) (Row.ofText (Document.prepare text)) := by
  rw [Row.ofText]
  rcases splitOn_prepare broken with same | longer
  · rw [same]
    exact ofLines _
  · rw [longer]
    exact ofLines_concat _

end AreRows

/-! ### Blocks of the text -/

/-- The frame of a whole text. -/
def wholeFrame (dialect : Dialect) (rows : List Row) : Frame :=
  ⟨dialect, rows.toArray, rows.toArray.size, 0, none, 0⟩

theorem row_wholeFrame {rows : List Row} {row : Row} (found : rows[index]? = some row) :
    (wholeFrame dialect rows).row index = row := by
  rw [Frame.row, wholeFrame, List.getElem?_toArray, found, Option.getD_some]

/-- What is left of a line, together with its column, is nested no more deeply than the line. -/
theorem nesting_ofLine (line : Text) (isClosed : Bool) :
    (Row.ofLine line isClosed).column + nesting (Row.ofLine line isClosed).content ≤
      (nesting line : Int) := by
  have measured := (Row.measure_snd 0 0 line).2
  rw [Row.content_ofLine]
  show (((Row.measure 0 0 line).2 : Nat) : Int) + _ ≤ _
  omega

theorem nesting_marks {mark : Char} {size : Nat} (marked : mark = '\x60' ∨ mark = '~')
    (some' : 0 < size) (behind : Text) : nesting (List.replicate size mark ++ behind) = 0 := by
  obtain ⟨more, rfl⟩ := Nat.exists_eq_add_of_lt some'
  rw [List.replicate_succ, List.cons_append, nesting]
  rcases marked with rfl | rfl <;> rfl

/-- Where no region is open, a line is not nested too deeply. -/
theorem AreSet.nesting_lt (set : AreSet dialect lines) (found : lines[index]? = some line)
    (outside : openAt lines index = none) (isClosed : Bool) :
    (Row.ofLine line isClosed).column + nesting (Row.ofLine line isClosed).content <
      (dialect.depth : Int) := by
  rcases free_or_begins outside (List.getElem?_eq_some_iff.mp found).1 with
    free | ⟨opening, outside, other, found', opened⟩
  · have plain := set.isPlainLine free found
    rw [Guide.isPlainLine, Bool.and_eq_true, decide_eq_true_eq] at plain
    have bound := nesting_ofLine line isClosed
    omega
  · obtain rfl := Option.some.inj (found.symm.trans found')
    obtain ⟨-, shallow, -⟩ :=
      Fence.spec_of_isWellOpened (set.isWellOpened ⟨outside, line, found, opened⟩ found)
    obtain ⟨content, column⟩ := @row_of_opens? index line isClosed opening opened
    obtain ⟨-, -, marked, several, -⟩ := parts_of_opens? opened
    rw [content, column, nesting_marks marked (by omega)]
    omega

/-- The frame of a whole text shows its lines. -/
theorem shows_wholeFrame {rows : List Row} (spoken : dialect.isPlain = false)
    (set : AreSet dialect lines) (clean : ∀ line ∈ lines, '\n' ∉ line)
    (shown : AreRows lines rows) :
    (wholeFrame dialect rows).Shows lines 0 rows.length where
  spoken := spoken
  set := set
  clean := clean
  reach := ⟨Nat.le_refl _, Nat.le_refl _, shown.size⟩
  blank := shown.blank
  ends := .inr (Nat.le_refl _)
  kept index line found inside _ := by
    obtain ⟨isClosed, row, closed⟩ := shown.shown index line found inside
    exact ⟨isClosed, row_wholeFrame row, closed⟩
  left index line found inside _ := by
    obtain ⟨isClosed, row, -⟩ := shown.shown index line found inside
    rw [row_wholeFrame row]
    exact Row.isLeftOf_ofLine line isClosed
  shallow index _ before outside _ := by
    have found := List.getElem?_eq_getElem (Nat.lt_of_lt_of_le before shown.size)
    obtain ⟨isClosed, row, -⟩ := shown.shown index _ found before
    rw [row_wholeFrame row]
    have shallow := set.nesting_lt found outside isClosed
    show ((0 : Nat) : Int) + _ + (_ - ((0 : Nat) : Int)) < (dialect.depth : Int)
    omega

theorem areSet_of_isWellFenced (wellFenced : isWellFenced dialect text = true) :
    AreSet dialect (Text.lines text) := by
  rw [isWellFenced, Bool.and_eq_true] at wellFenced
  intro index line found
  exact @isWellSet_of_areWellSet _ line 0 dialect _ rfl wellFenced.2 index (Nat.zero_le index) found

/-- A line that closes a region is not blank. -/
theorem not_blank_of_closes {fence : Fence} (closes : Closes lines index fence)
    (found : lines[index]? = some line) : line.all isSpaceOrTab = false := by
  obtain ⟨opened, other, found', closed⟩ := closes
  obtain rfl := Option.some.inj (found.symm.trans found')
  obtain ⟨opening, region, rfl⟩ := exists_isRegion opened
  obtain ⟨-, _, -, opens⟩ := region.begins
  obtain ⟨-, -, -, several, -⟩ := parts_of_opens? opens
  refine eq_false_of_ne_true fun blank => ?_
  rw [Fence.isClosedBy, trim_of_isBlankText (isBlankText_of_all_isSpaceOrTab blank),
    Bool.and_eq_true, decide_eq_true_eq] at closed
  have short : opening.size ≤ 0 := closed.1
  omega

/-- What is found in a well fenced text: its regions, as far as they are closed, are blocks of code,
and there is no more than one block at a line. -/
structure IsRead (lines : List Text) (leaves : List Leaf) : Prop where
  headings : ∀ heading ∈ Document.headings leaves, openAt lines heading.last = none
  fenced : ∀ info content start, .code (some info) content start ∈ leaves →
    ∀ index, start ≤ index → index ≤ start + content.count '\n' + 1 → ¬ IsFree lines index
  regions : ∀ index fence, Closes lines index fence → fence.block 0 ∈ Document.codeBlocks leaves
  apart : (Document.codeBlocks leaves).Pairwise (·.line ≠ ·.line)

/-- What was found last stands first until all has been found. -/
theorem Reads.isRead {count next : Nat} {leaves : List Leaf}
    (read : Reads lines count 0 next leaves)
    (all : ∀ index fence, Closes lines index fence → index < next) :
    IsRead lines leaves.reverse where
  headings heading member := by
    rw [Document.headings, List.filterMap_reverse, List.mem_reverse] at member
    exact read.headings heading member
  fenced info content start member := read.fenced info content start (List.mem_reverse.mp member)
  regions index fence closes := by
    rw [Document.codeBlocks, List.filterMap_reverse, List.mem_reverse]
    exact read.regions index fence (Nat.zero_le index) (all index fence closes) closes
  apart := by
    rw [Document.codeBlocks, List.filterMap_reverse]
    exact List.pairwise_reverse.mpr (read.apart.imp Ne.symm)

theorem isRead_blocksOf (spoken : dialect.isPlain = false)
    (wellFenced : isWellFenced dialect text = true) :
    IsRead (Text.lines text) (blocksOf dialect (Document.prepare text)).1 := by
  have set := areSet_of_isWellFenced wellFenced
  rw [isWellFenced, Bool.and_eq_true] at wellFenced
  have shown := AreRows.ofText wellFenced.1
  have clean : ∀ line ∈ Text.lines text, '\n' ∉ line := fun line member newline =>
    absurd (not_isLineBreak_of_mem_lines member '\n' newline) (by decide)
  have shows := shows_wholeFrame spoken set clean shown
  generalize rows' : Row.ofText (Document.prepare text) = rows at shown shows
  obtain ⟨⟨leaves, same, read⟩, ends, -⟩ :=
    (reads_all (Text.lines text) (4 * rows.toArray.size + 4 * dialect.depth + 8)).1
      (wholeFrame dialect rows) 0 rows.length ⟨[], []⟩ shows (.inl rfl)
      (by rw [need, wholeFrame]; dsimp only; omega)
  have whole : (blocksOf dialect (Document.prepare text)).1 = leaves.reverse := by
    rw [blocksOf, rows', ← List.append_nil leaves]
    exact congrArg List.reverse same
  rw [whole]
  refine read.isRead fun index fence closes => ?_
  obtain ⟨-, line, found, -⟩ := id closes
  have inside : index < rows.length := Nat.lt_of_not_le fun past =>
    absurd ((not_blank_of_closes closes found).symm.trans (shown.blank index line found past))
      Bool.false_ne_true
  -- a row of the whole text is never outside, so the search ends behind the last one
  refine Nat.lt_of_lt_of_le inside (ends.elim id fun outside => Nat.le_of_not_lt fun short => ?_)
  have found := List.getElem?_eq_getElem (Nat.lt_of_lt_of_le short shown.size)
  obtain ⟨isClosed, row, -⟩ := shown.shown _ _ found short
  rw [row_wholeFrame row, Frame.isOutside, decide_eq_true_eq] at outside
  exact absurd outside (Int.not_lt.mpr (Int.natCast_nonneg _))

end GuidedMigration.Guide

namespace GuidedMigration.Guide

open Text Markdown

variable {lines : List Text} {leaves : List Leaf} {document : Document} {dialect : Dialect}
  {deepest : Nat} {path text : Text}

/-! ### The steps of a guide -/

theorem heading_mem_of_mem_spansOf {count : Nat} {headings : List Heading} {span : Span}
    (member : span ∈ spansOf count headings) : span.heading ∈ headings := by
  induction headings using spansOf.induct with
  | case1 => simp [spansOf] at member
  | case2 heading =>
    obtain rfl := List.mem_singleton.mp member
    exact List.mem_singleton_self heading
  | case3 heading next rest inductionHypothesis =>
    rw [spansOf] at member
    rcases List.mem_cons.mp member with rfl | later
    · exact List.mem_cons_self
    · exact List.mem_cons_of_mem heading (inductionHypothesis later)

theorem isPrefix_body (span : Span) (lines : List Text) :
    span.body lines <+: lines.drop span.heading.last := by
  rw [Span.body, Span.start, List.drop_take]
  exact List.take_prefix _ _

/-- The steps of a part of the lines that starts outside of all regions. -/
theorem isStep_of_part {rows : List Text} {start : Nat} {steps : List Step}
    (outside : openAt lines start = none) (part : rows <+: lines.drop start)
    (read : Guide.steps start rows = .ok steps) : ∀ step ∈ steps, IsStep 0 lines step :=
  fun step member => (isStep_of_steps read step member).among outside part

/-- Sections and the preamble start outside of all regions, so their steps are what they are among
all lines. -/
theorem isStep_of_ofText
    (read : Document.ofText dialect deepest path text = .ok document)
    (headings : ∀ heading ∈ Document.headings (blocksOf dialect (Document.prepare text)).1,
      openAt (Text.lines text) heading.last = none) :
    document.blocks = Document.codeBlocks (blocksOf dialect (Document.prepare text)).1 ∧
      ∀ step ∈ document.steps, IsStep 0 (Text.lines text) step := by
  rw [Document.ofText] at read
  generalize blocksOf dialect (Document.prepare text) = blocks at read headings
  obtain ⟨sections, mapped, read⟩ := exists_of_bind_ok read
  obtain ⟨preamble, scanned, read⟩ := exists_of_bind_ok read
  obtain rfl := Except.ok.inj read
  refine ⟨rfl, fun step member => ?_⟩
  rcases List.mem_append.mp member with early | late
  · exact @isStep_of_part (Text.lines text) _ 0 _ rfl (List.take_prefix _ _) scanned step early
  · obtain ⟨part, among, own⟩ := List.mem_flatMap.mp late
    obtain ⟨span, listed, made⟩ := exists_of_mem_mapM mapped among
    obtain ⟨steps, scanned', made⟩ := exists_of_bind_ok made
    obtain rfl := Except.ok.inj made
    have opens := heading_mem_of_mem_spansOf listed
    exact isStep_of_part (headings span.heading (List.mem_filter.mp opens).1)
      (isPrefix_body span _) scanned' step own

/-! ### Blocks by their lines -/

theorem exists_line_of_codeBlocks {block : CodeBlock}
    (member : block ∈ Document.codeBlocks leaves) :
    ∃ start : Nat, block.line = some (start : Int) := by
  obtain ⟨leaf, -, made⟩ := List.mem_filterMap.mp member
  split at made
  · obtain rfl := Option.some.inj made
    exact ⟨_, rfl⟩
  · cases made

/-- Where no two blocks have the same line, a block is found by its line. -/
theorem filter_line_eq {blocks : List CodeBlock} {block : CodeBlock}
    (apart : blocks.Pairwise (·.line ≠ ·.line)) (member : block ∈ blocks) :
    blocks.filter (·.line = block.line) = [block] := by
  induction blocks with
  | nil => cases member
  | cons first rest inductionHypothesis =>
    obtain ⟨others, apart⟩ := List.pairwise_cons.mp apart
    rcases List.mem_cons.mp member with rfl | later
    · rw [List.filter_cons_of_pos (by simp), List.filter_eq_nil_iff.mpr]
      exact fun other among => by simpa using (others other among).symm
    · rw [List.filter_cons_of_neg (by simpa using others block later),
        inductionHypothesis apart later]

/-! ### Agreement -/

/-- Whether an instruction of a guide uses a block. -/
def IsUsed (document : Document) (block : CodeBlock) : Prop :=
  ∃ instruction ∈ Migration.instructionsOf document,
    instruction.claimsSnippet = true ∧ instruction.step.snippet = some block

/-- What it is for the two readings of the fences of a guide to agree. -/
structure FencesAgree (dialect : Dialect) (text : Text) (document : Document) : Prop where
  /-- No step stands in a block of fenced code, which takes the line of its fence, one line for each
  newline of its content, and the line behind these. -/
  apart : ∀ info content (first : Nat),
    .code (some info) content first ∈ (blocksOf dialect (Document.prepare text)).1 →
      ∀ step ∈ document.steps, ∀ line, step.line = some line →
        line < first ∨ first + (content.count '\n' : Int) + 1 < line
  /-- The snippet of a step is the one block with its line. -/
  matched : ∀ step ∈ document.steps, ∀ snippet, step.snippet = some snippet →
    document.blocks.filter (·.line = snippet.line) = [snippet]
  /-- The blocks that are left out of the tasks of their own are those that instructions use. -/
  removed : ∀ block ∈ document.blocks,
    block ∈ Migration.unclaimed (Migration.instructionsOf document) document.blocks ↔
      ¬ IsUsed document block

theorem mem_claimedLines {instructions : List Instruction} {line : Int} :
    line ∈ Migration.claimedLines instructions ↔ ∃ instruction ∈ instructions,
      instruction.claimsSnippet = true ∧
        ∃ snippet, instruction.step.snippet = some snippet ∧ snippet.line = some line := by
  simp only [Migration.claimedLines, List.mem_filterMap, List.mem_filter,
    Option.bind_eq_some_iff, and_assoc]

/-- Where snippets are found by their lines, a block is claimed by its line exactly if it is
used. -/
theorem mem_unclaimed_iff {block : CodeBlock}
    (matched : ∀ step ∈ document.steps, ∀ snippet, step.snippet = some snippet →
      document.blocks.filter (·.line = snippet.line) = [snippet])
    {line : Int} (own : block.line = some line) (member : block ∈ document.blocks) :
    block ∈ Migration.unclaimed (Migration.instructionsOf document) document.blocks ↔
      ¬ IsUsed document block := by
  rw [Migration.unclaimed, List.mem_filter, Migration.isUnclaimed, own, Option.any_some,
    Bool.not_eq_true', and_iff_right member, ← Bool.not_eq_true, List.contains_iff_mem,
    mem_claimedLines]
  refine not_congr ⟨?_, ?_⟩
  · rintro ⟨instruction, listed, claims, snippet, attached, same⟩
    refine ⟨instruction, listed, claims, ?_⟩
    obtain ⟨step, among, rfl⟩ := List.mem_map.mp listed
    have found := matched step among snippet attached
    have inside : block ∈ document.blocks.filter (·.line = snippet.line) :=
      List.mem_filter.mpr ⟨member, by simp [own, same]⟩
    rw [found, List.mem_singleton] at inside
    rw [inside, attached]
  · rintro ⟨instruction, listed, claims, attached⟩
    exact ⟨instruction, listed, claims, block, attached, own⟩

/-- In a well fenced text both readings of the fences agree. -/
theorem fences_agree (spoken : dialect.isPlain = false)
    (wellFenced : isWellFenced dialect text = true)
    (read : Document.ofText dialect deepest path text = .ok document) :
    FencesAgree dialect text document := by
  have found := isRead_blocksOf spoken wellFenced
  obtain ⟨blocks, steps⟩ := isStep_of_ofText read found.headings
  have matched : ∀ step ∈ document.steps, ∀ snippet, step.snippet = some snippet →
      document.blocks.filter (·.line = snippet.line) = [snippet] := by
    intro step member snippet attached
    obtain ⟨index, fence, closes, rfl⟩ := (steps step member).snippet snippet attached
    rw [blocks]
    exact filter_line_eq found.apart (found.regions index fence closes)
  refine ⟨fun info content first member step among line own => ?_, matched, ?_⟩
  · obtain ⟨index, own', free⟩ := (steps step among).line
    have same := Option.some.inj (own.symm.trans own')
    refine Decidable.byContradiction fun inside => ?_
    exact found.fenced info content first member index (by omega) (by omega) free
  · intro block member
    obtain ⟨start, own⟩ := exists_line_of_codeBlocks (blocks ▸ member)
    exact mem_unclaimed_iff matched own member

/-- A step with a snippet below it in its list item. -/
theorem fences_agree_in_item :
    isWellFenced .extended "- Add x\n  ```ts\n  a\n  ```\n".toList = true ∧
      ∃ document,
        Document.ofText .extended 3 [] "- Add x\n  ```ts\n  a\n  ```\n".toList = .ok document ∧
        document.steps.map (·.snippet) = [some ⟨['t', 's'], ['a', '\n'], some 1⟩] ∧
        FencesAgree .extended "- Add x\n  ```ts\n  a\n  ```\n".toList document := by
  have wellFenced : isWellFenced .extended "- Add x\n  ```ts\n  a\n  ```\n".toList = true := by
    decide +kernel
  have snippets :
      (Document.ofText .extended 3 [] "- Add x\n  ```ts\n  a\n  ```\n".toList).toOption.map
        (·.steps.map (·.snippet)) = some [some ⟨['t', 's'], ['a', '\n'], some 1⟩] := by
    decide +kernel
  cases read : Document.ofText .extended 3 [] "- Add x\n  ```ts\n  a\n  ```\n".toList with
  | error failure =>
    rw [read] at snippets
    cases snippets
  | ok document =>
    rw [read] at snippets
    exact ⟨wellFenced, document, rfl, Option.some.inj snippets, fences_agree rfl wellFenced read⟩

/-- A line of marks alone closes a region however far it is indented, but it closes no fence if that
is by four spaces. So a line behind it is a step for one reading and code for the other. -/
theorem indented_closing_hides_step :
    ∃ document,
      Document.ofText .extended 3 [] "```\n    ```\n1. Add x\n```\n".toList = .ok document ∧
        ¬ FencesAgree .extended "```\n    ```\n1. Add x\n```\n".toList document := by
  have steps : (Document.ofText .extended 3 [] "```\n    ```\n1. Add x\n```\n".toList).toOption.map
      (·.steps) = some [⟨some 1, "Add x".toList, none, some 2⟩] := by
    decide +kernel
  have fence : .code (some []) "    ```\n1. Add x\n".toList 0 ∈
      (blocksOf .extended (Document.prepare "```\n    ```\n1. Add x\n```\n".toList)).1 := by
    decide +kernel
  cases read : Document.ofText .extended 3 [] "```\n    ```\n1. Add x\n```\n".toList with
  | error failure =>
    rw [read] at steps
    cases steps
  | ok document =>
    rw [read] at steps
    have found : document.steps = [⟨some 1, "Add x".toList, none, some 2⟩] := Option.some.inj steps
    refine ⟨document, rfl, fun agree => ?_⟩
    have away := agree.apart _ _ 0 fence _ (found ▸ List.mem_singleton_self _) 2 rfl
    exact absurd away (by decide)

end GuidedMigration.Guide
