/-
This file shows that the outline of a guide divides its lines. The preamble, and then for each
section its heading and its body, follow each other from the first line to the last, without a gap
and without an overlap, as long as the headings do not overlap. Preamble and bodies are searched for
steps one by one, so that every line that is in no heading of a section is searched once, and the
steps that are found go down the guide.
-/
import GuidedMigration.Proofs.Guide.Agreement
import GuidedMigration.Proofs.Guide.StepScan

namespace GuidedMigration.Guide

open Text Markdown

/-! ### Ranges of lines -/

/-- The lines from one on, up to another one that does not belong to them. -/
structure LineRange where
  first : Nat
  stop : Nat
  deriving DecidableEq

namespace LineRange

/-- Whether a line belongs to a range. -/
def holds (line : Nat) (range : LineRange) : Bool := range.first ≤ line && line < range.stop

/-- The lines of a range among all lines. -/
def rows (lines : List Text) (range : LineRange) : List Text :=
  (lines.take range.stop).drop range.first

theorem holds_iff {line : Nat} {range : LineRange} :
    range.holds line = true ↔ range.first ≤ line ∧ line < range.stop := by
  rw [holds, Bool.and_eq_true, decide_eq_true_eq, decide_eq_true_eq]

theorem length_rows_le (lines : List Text) (range : LineRange) :
    (range.rows lines).length ≤ range.stop - range.first := by
  rw [rows, List.length_drop, List.length_take]
  omega

end LineRange

/-- Whether ranges follow each other from a line to a last one, without a gap or an overlap. -/
inductive Tiles (last : Nat) : Nat → List LineRange → Prop
  | nil : Tiles last last []
  | cons {range : LineRange} {ranges : List LineRange} (proper : range.first ≤ range.stop)
      (rest : Tiles last range.stop ranges) : Tiles last range.first (range :: ranges)

/-- Whether ranges divide so many lines: they go down the lines without an overlap, and a line is
among them exactly if it belongs to one of them. -/
structure Divides (count : Nat) (ranges : List LineRange) : Prop where
  proper : ∀ range ∈ ranges, range.first ≤ range.stop
  ordered : ranges.Pairwise (·.stop ≤ ·.first)
  covers : ∀ line, line < count ↔ ∃ range ∈ ranges, range.holds line = true

namespace Tiles

variable {last first line : Nat} {ranges : List LineRange}

theorem within (tiles : Tiles last first ranges) : first ≤ last ∧
    ∀ range ∈ ranges, first ≤ range.first ∧ range.first ≤ range.stop ∧ range.stop ≤ last := by
  induction tiles with
  | nil => exact ⟨Nat.le_refl last, nofun⟩
  | @cons range ranges proper rest inductionHypothesis =>
    obtain ⟨reaches, others⟩ := inductionHypothesis
    refine ⟨Nat.le_trans proper reaches, fun other member => ?_⟩
    rcases List.mem_cons.mp member with rfl | behind
    · exact ⟨Nat.le_refl _, proper, reaches⟩
    · obtain ⟨later, proper', ends⟩ := others other behind
      exact ⟨Nat.le_trans proper later, proper', ends⟩

theorem ordered (tiles : Tiles last first ranges) : ranges.Pairwise (·.stop ≤ ·.first) := by
  induction tiles with
  | nil => exact .nil
  | cons proper rest inductionHypothesis =>
    exact .cons (fun other member => (rest.within.2 other member).1) inductionHypothesis

theorem exists_holds (tiles : Tiles last first ranges) (from' : first ≤ line)
    (before : line < last) : ∃ range ∈ ranges, range.holds line = true := by
  induction tiles with
  | nil => omega
  | @cons range ranges proper rest inductionHypothesis =>
    by_cases inside : line < range.stop
    · exact ⟨range, List.mem_cons_self, LineRange.holds_iff.mpr ⟨from', inside⟩⟩
    · obtain ⟨other, member, held⟩ := inductionHypothesis (Nat.le_of_not_lt inside)
      exact ⟨other, List.mem_cons_of_mem range member, held⟩

theorem divides (tiles : Tiles last 0 ranges) : Divides last ranges where
  proper range member := (tiles.within.2 range member).2.1
  ordered := tiles.ordered
  covers line := by
    refine ⟨tiles.exists_holds (Nat.zero_le line), ?_⟩
    rintro ⟨range, member, held⟩
    obtain ⟨-, -, ends⟩ := tiles.within.2 range member
    exact Nat.lt_of_lt_of_le (LineRange.holds_iff.mp held).2 ends

end Tiles

/-- A line belongs to one range at most of those that do not overlap. -/
theorem countP_holds_le {ranges : List LineRange} (ordered : ranges.Pairwise (·.stop ≤ ·.first))
    (line : Nat) : ranges.countP (·.holds line) ≤ 1 := by
  induction ranges with
  | nil => exact Nat.zero_le 1
  | cons range ranges inductionHypothesis =>
    obtain ⟨later, ordered⟩ := List.pairwise_cons.mp ordered
    cases here : range.holds line with
    | false =>
      rw [List.countP_cons_of_neg (by simp [here])]
      exact inductionHypothesis ordered
    | true =>
      have others : ranges.countP (·.holds line) = 0 := by
        refine List.countP_eq_zero.mpr fun other member held => ?_
        have behind := later other member
        have inside := LineRange.holds_iff.mp here
        have beyond := LineRange.holds_iff.mp held
        omega
      rw [List.countP_cons_of_pos here]
      exact Nat.le_of_eq (congrArg (· + 1) others)

/-! ### The outline -/

/-- The lines of the heading of a section. -/
def Span.headingRange (span : Span) : LineRange := ⟨span.heading.first, span.start⟩

/-- The lines of a section behind its heading. -/
def Span.bodyRange (span : Span) : LineRange := ⟨span.start, span.stop⟩

namespace Outline

/-- The lines before the first section. -/
def preamble (outline : Outline) : LineRange := ⟨0, outline.preambleEnd⟩

/-- The preamble, and for each section its heading and its body. -/
def ranges (outline : Outline) : List LineRange :=
  outline.preamble :: outline.spans.flatMap fun span => [span.headingRange, span.bodyRange]

/-- The ranges that are searched for steps: the preamble and the bodies of the sections. -/
def searched (outline : Outline) : List LineRange :=
  outline.preamble :: outline.spans.map Span.bodyRange

theorem searched_sublist (outline : Outline) : outline.searched.Sublist outline.ranges := by
  refine List.Sublist.cons_cons _ ?_
  generalize outline.spans = spans
  induction spans with
  | nil => exact List.nil_sublist _
  | cons span spans inductionHypothesis => exact (inductionHypothesis.cons_cons _).cons _

/-- A range of the outline is searched, or it is the heading of a section. -/
theorem countP_ranges (outline : Outline) (among : LineRange → Bool) :
    outline.ranges.countP among =
      outline.searched.countP among + outline.spans.countP (among ·.headingRange) := by
  rw [ranges, searched, List.countP_cons, List.countP_cons]
  generalize outline.spans = spans
  induction spans with
  | nil => rfl
  | cons span spans inductionHypothesis =>
    simp only [List.flatMap_cons, List.map_cons, List.cons_append, List.nil_append,
      List.countP_cons]
    omega

end Outline

/-- Whether headings go down so many lines without an overlap. -/
structure GoDown (count : Nat) (headings : List Heading) : Prop where
  proper : ∀ heading ∈ headings, heading.first ≤ heading.last
  ordered : headings.Pairwise (·.last ≤ ·.first)
  within : ∀ heading ∈ headings, heading.last ≤ count

variable {count deepest : Nat} {headings : List Heading}

theorem GoDown.sublist {fewer : List Heading} (down : GoDown count headings)
    (part : fewer.Sublist headings) : GoDown count fewer where
  proper heading member := down.proper heading (part.mem member)
  ordered := down.ordered.sublist part
  within heading member := down.within heading (part.mem member)

/-- From the first heading on, headings and bodies follow each other to the end. -/
theorem tiles_spansOf {heading : Heading} (down : GoDown count (heading :: headings)) :
    Tiles count heading.first ((spansOf count (heading :: headings)).flatMap fun span =>
      [span.headingRange, span.bodyRange]) := by
  induction headings generalizing heading with
  | nil =>
    have own := List.mem_singleton_self heading
    exact @Tiles.cons _ ⟨heading.first, heading.last⟩ _ (down.proper heading own)
      (@Tiles.cons _ ⟨heading.last, count⟩ _ (down.within heading own) .nil)
  | cons next rest inductionHypothesis =>
    have later := (List.pairwise_cons.mp down.ordered).1 next List.mem_cons_self
    exact @Tiles.cons _ ⟨heading.first, heading.last⟩ _
      (down.proper heading List.mem_cons_self)
      (@Tiles.cons _ ⟨heading.last, next.first⟩ _ later
        (inductionHypothesis (down.sublist (List.sublist_cons_self heading _))))

theorem heading_spansOf (count : Nat) (headings : List Heading) :
    (spansOf count headings).map Span.heading = headings := by
  induction headings using spansOf.induct with
  | case1 => rfl
  | case2 heading => rfl
  | case3 heading next rest inductionHypothesis =>
    rw [spansOf, List.map_cons, inductionHypothesis]

theorem tiles_outline (down : GoDown count headings) (deepest : Nat) :
    Tiles count 0 (outline headings count deepest).ranges := by
  have opening := down.sublist (@List.filter_sublist _ (·.opens deepest) headings)
  rw [outline, Outline.ranges, Outline.preamble]
  generalize headings.filter (·.opens deepest) = opens at opening
  cases opens with
  | nil => exact @Tiles.cons _ ⟨0, count⟩ _ (Nat.zero_le count) .nil
  | cons heading rest =>
    exact @Tiles.cons _ ⟨0, heading.first⟩ _ (Nat.zero_le _) (tiles_spansOf opening)

/-- Of the lines of a guide, those that are in no heading of a section are searched for steps once,
and the others are not. -/
theorem countP_searched {outline : Outline} (divides : Divides count outline.ranges) {line : Nat}
    (inside : line < count) : outline.searched.countP (·.holds line) =
      if outline.spans.any (·.headingRange.holds line) then 0 else 1 := by
  have most := countP_holds_le divides.ordered line
  have least : 0 < outline.ranges.countP (·.holds line) :=
    List.countP_pos_iff.mpr ((divides.covers line).mp inside)
  rw [outline.countP_ranges] at most least
  have headings : 0 < outline.spans.countP (·.headingRange.holds line) ↔
      outline.spans.any (·.headingRange.holds line) = true := by
    rw [List.countP_pos_iff, List.any_eq_true]
  split
  · rename_i found
    have counted := headings.mpr found
    omega
  · rename_i missing
    have none' := mt headings.mp missing
    omega

/-! ### One search for each range -/

/-- The search for steps in a range of lines. -/
def searchIn (lines : List Text) (range : LineRange) : Except LongInteger (List Step) :=
  steps range.first (range.rows lines)

/-- Whether steps are those that are found by searching ranges of lines one after the other. -/
def AreFoundIn (lines : List Text) (ranges : List LineRange) (found : List Step) : Prop :=
  ∃ parts, ranges.mapM (searchIn lines) = .ok parts ∧ found = parts.flatten

/-- Whether steps have the lines with these numbers, which ascend. -/
structure StandAt (numbers : List Nat) (found : List Step) : Prop where
  lines : found.map (·.line) = numbers.map fun number : Nat => some (number : Int)
  ascending : numbers.Pairwise (· < ·)

variable {lines : List Text} {range : LineRange} {ranges : List LineRange} {found : List Step}

/-- The steps that are found in a range are lines of it, and go down. -/
theorem exists_standAt_of_searchIn (read : searchIn lines range = .ok found) :
    ∃ numbers, StandAt numbers found ∧ ∀ number ∈ numbers, range.holds number = true := by
  obtain ⟨indexes, ascending, exact', held⟩ :=
    ((isScan_steps range.first (range.rows lines)).2 found read).steps
  refine ⟨indexes.map (range.first + ·), ⟨?_, ?_⟩, ?_⟩
  · rw [List.map_map]
    clear exact' read ascending
    induction held with
    | nil => rfl
    | cons own _ inductionHypothesis =>
      rw [List.map_cons, List.map_cons, inductionHypothesis, own.line]
      rfl
  · exact List.pairwise_map.mpr (ascending.imp fun less => Nat.add_lt_add_left less _)
  · intro number member
    obtain ⟨index, among, rfl⟩ := List.mem_map.mp member
    obtain ⟨-, -, -, line, foundLine, -⟩ := (exact' index).mp among
    have before := (List.getElem?_eq_some_iff.mp foundLine).1
    have short := range.length_rows_le lines
    exact LineRange.holds_iff.mpr ⟨Nat.le_add_right _ _, by omega⟩

/-- The steps that are found in ranges that go down the lines go down them too. -/
theorem AreFoundIn.exists_standAt (found' : AreFoundIn lines ranges found)
    (ordered : ranges.Pairwise (·.stop ≤ ·.first)) :
    ∃ numbers, StandAt numbers found ∧
      ∀ number ∈ numbers, ∃ range ∈ ranges, range.holds number = true := by
  obtain ⟨parts, read, rfl⟩ := found'
  induction mapM_eq_ok.mp read with
  | nil => exact ⟨[], ⟨rfl, .nil⟩, nofun⟩
  | @cons range part ranges parts own rest inductionHypothesis =>
    obtain ⟨later, ordered⟩ := List.pairwise_cons.mp ordered
    obtain ⟨numbers, stand, inside⟩ := exists_standAt_of_searchIn own
    obtain ⟨others, otherStand, behind⟩ := inductionHypothesis ordered (mapM_eq_ok.mpr rest)
    refine ⟨numbers ++ others, ⟨?_, ?_⟩, ?_⟩
    · rw [List.flatten_cons, List.map_append, List.map_append, stand.lines, otherStand.lines]
    · refine List.pairwise_append.mpr
        ⟨stand.ascending, otherStand.ascending, fun number member other among => ?_⟩
      obtain ⟨range', among', held⟩ := behind other among
      have reaches := later range' among'
      have own := LineRange.holds_iff.mp (inside number member)
      have beyond := LineRange.holds_iff.mp held
      omega
    · intro number member
      rcases List.mem_append.mp member with early | late
      · exact ⟨range, List.mem_cons_self, inside number early⟩
      · obtain ⟨range', among', held⟩ := behind number late
        exact ⟨range', List.mem_cons_of_mem range among', held⟩

/-! ### Reading a guide -/

variable {dialect : Dialect} {path text : Text} {document : Document}

/-- The outline that a guide is read by. -/
def outlineOf (dialect : Dialect) (deepest : Nat) (text : Text) : Outline :=
  outline (Document.headings (blocksOf dialect (Document.prepare text)).1) (Text.lines text).length
    deepest

/-- A section is read by searching its body. -/
theorem sectionOf_eq (lines : List Text) (span : Span) :
    Document.sectionOf lines span = (searchIn lines span.bodyRange).map fun found =>
      ⟨span.title, span.heading.level, trimWhile (· = '\n') (joinLines (span.body lines)), found,
        span.heading.first⟩ := by
  show (searchIn lines span.bodyRange >>= fun found => _) = _
  cases searchIn lines span.bodyRange <;> rfl

theorem steps_of_sectionOf {span : Span} {part : Section}
    (made : Document.sectionOf lines span = .ok part) :
    searchIn lines span.bodyRange = .ok part.steps := by
  rw [sectionOf_eq] at made
  cases searched : searchIn lines span.bodyRange with
  | error refusal => rw [searched] at made; cases made
  | ok found => rw [searched] at made; rw [← Except.ok.inj made]

/-- The steps of a guide are found by searching the preamble and the bodies of the sections. -/
theorem areFoundIn_of_ofText (read : Document.ofText dialect deepest path text = .ok document) :
    AreFoundIn (Text.lines text) (outlineOf dialect deepest text).searched document.steps := by
  obtain ⟨sections, mapped, read⟩ := exists_of_bind_ok read
  obtain ⟨preamble, searched, read⟩ := exists_of_bind_ok read
  obtain rfl := Except.ok.inj read
  refine ⟨preamble :: sections.map (·.steps), mapM_eq_ok.mpr (.cons searched ?_), ?_⟩
  · rw [List.forall₂_map_left_iff, List.forall₂_map_right_iff]
    exact (mapM_eq_ok.mp mapped).imp fun span part made => steps_of_sectionOf made
  · rw [List.flatten_cons, ← List.flatMap_def]

/-- A guide is read exactly if the search comes to an end in the preamble and in each body. -/
theorem exists_ofText_iff : (∃ document, Document.ofText dialect deepest path text = .ok document) ↔
    ∀ range ∈ (outlineOf dialect deepest text).searched,
      ∃ found, searchIn (Text.lines text) range = .ok found := by
  rw [← exists_mapM_eq_ok]
  refine ⟨fun ⟨document, read⟩ => ?_, fun each => ?_⟩
  · obtain ⟨parts, read, -⟩ := areFoundIn_of_ofText read
    exact ⟨parts, read⟩
  · rw [exists_mapM_eq_ok, Outline.searched, List.forall_mem_cons] at each
    obtain ⟨⟨preamble, searched⟩, bodies⟩ := each
    have sections : ∃ sections, (outlineOf dialect deepest text).spans.mapM
        (Document.sectionOf (Text.lines text)) = .ok sections := by
      refine exists_mapM_eq_ok.mpr fun span member => ?_
      obtain ⟨found, own⟩ := bodies _ (List.mem_map_of_mem member)
      rw [sectionOf_eq, own]
      exact ⟨_, rfl⟩
    obtain ⟨sections, mapped⟩ := sections
    exact ⟨_, bind_ok_iff.mpr ⟨sections, mapped, bind_ok_iff.mpr ⟨preamble, searched, rfl⟩⟩⟩

/-! ### The division of a guide -/

/-- The outline of a guide divides its lines, if the headings do not overlap: the preamble, and for
each heading of the second level to the deepest one that opens a section its lines and its body.
Every line that is in no heading of a section is searched for steps once, and the steps of a guide,
which is read exactly if the searches come to an end, go down its lines. -/
theorem outline_divides_guide (down : GoDown count headings) (deepest : Nat) :
    Divides count (outline headings count deepest).ranges ∧
      (outline headings count deepest).spans.map Span.heading =
        headings.filter (fun heading => 2 ≤ heading.level && heading.level ≤ deepest) ∧
      (∀ line < count, (outline headings count deepest).searched.countP (·.holds line) =
        if (outline headings count deepest).spans.any (·.headingRange.holds line) then 0 else 1) ∧
      ∀ dialect path text,
        headings = Document.headings (blocksOf dialect (Document.prepare text)).1 →
        count = (Text.lines text).length →
        ((∃ document, Document.ofText dialect deepest path text = .ok document) ↔
          ∀ range ∈ (outline headings count deepest).searched,
            ∃ found, searchIn (Text.lines text) range = .ok found) ∧
        ∀ document, Document.ofText dialect deepest path text = .ok document →
          AreFoundIn (Text.lines text) (outline headings count deepest).searched document.steps ∧
            ∃ numbers, StandAt numbers document.steps := by
  have divides := (tiles_outline down deepest).divides
  refine ⟨divides, heading_spansOf _ _, fun line => countP_searched divides, ?_⟩
  rintro dialect path text rfl rfl
  refine ⟨exists_ofText_iff, fun document read => ?_⟩
  have found := areFoundIn_of_ofText read
  obtain ⟨numbers, stand, -⟩ :=
    found.exists_standAt (divides.ordered.sublist (Outline.searched_sublist _))
  exact ⟨found, numbers, stand⟩

/-- A guide with a step before its title, a heading of three lines, and one that is too deep. -/
def sectionedText : Text :=
  ("Copy\n1. Add a\n\n# Guide\n\n## First\n1. Add b\n\nSecond\npart\n---\n- add c\n\n" ++
    "#### Deep\n2. Add d\n").toList

/-- Its headings. -/
def sectionedHeadings : List Heading :=
  [⟨1, 3, 4, "Guide".toList⟩, ⟨2, 5, 6, "First".toList⟩, ⟨2, 8, 11, "Second\npart".toList⟩,
    ⟨4, 13, 14, "Deep".toList⟩]

/-- It is divided into a preamble and two sections, and its steps go down its lines. -/
theorem outline_divides_sectioned_guide :
    GoDown 15 sectionedHeadings ∧
      sectionedHeadings =
        Document.headings (blocksOf .extended (Document.prepare sectionedText)).1 ∧
      Divides 15 [⟨0, 5⟩, ⟨5, 6⟩, ⟨6, 8⟩, ⟨8, 11⟩, ⟨11, 15⟩] ∧
      ∃ document, Document.ofText .extended 3 [] sectionedText = .ok document ∧
        document.steps.map (·.line) = [1, 6, 11, 14].map some ∧
        ∃ numbers, StandAt numbers document.steps := by
  have down : GoDown 15 sectionedHeadings := ⟨by decide, by decide, by decide⟩
  have headings : sectionedHeadings =
      Document.headings (blocksOf .extended (Document.prepare sectionedText)).1 := by
    decide +kernel
  have count : 15 = (Text.lines sectionedText).length := by decide +kernel
  have lines : (Document.ofText .extended 3 [] sectionedText).toOption.map
      (·.steps.map (·.line)) = some ([1, 6, 11, 14].map some) := by decide +kernel
  obtain ⟨divides, -, -, reading⟩ := outline_divides_guide down 3
  cases read : Document.ofText .extended 3 [] sectionedText with
  | error refusal =>
    rw [read] at lines
    cases lines
  | ok document =>
    rw [read] at lines
    obtain ⟨-, stand⟩ := (reading .extended [] sectionedText headings count).2 document read
    exact ⟨down, headings, divides, document, rfl, Option.some.inj lines, stand⟩

end GuidedMigration.Guide
