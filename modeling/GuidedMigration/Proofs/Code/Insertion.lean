/-
This file says what an insertion comes to. It is never refused, the fragment is found afterwards and
is not inserted again, and the rows of the content are all there in their order, with one block
among them that has the solid rows of the fragment and nothing else. This holds of the rows that are
cut at newlines, in which places are looked for, and of the lines that are cut at every line break,
in which the fragment is looked for. An insertion keeps a fragment that the content already has: its
rows, which stand together, stay together unless the new rows come between them. A fragment of a
single row cannot be cut.
-/
import GuidedMigration.Proofs.Code.Presence
import GuidedMigration.Proofs.Text.Lines

namespace GuidedMigration.Code

open Text

/-! ### The inserted block -/

/-- Whether rows are others with one block among them, which has the solid rows of a fragment. -/
def Widens (fragment : Text) (rows wider : List Text) : Prop :=
  ∃ above block below, rows = above ++ below ∧ wider = above ++ block ++ below ∧
    block.flatMap solidRows = solidRows fragment

theorem not_mem_of_mem_rendered {fragment indent : Text} (clean : '\n' ∉ indent) {row : Text}
    (member : row ∈ rendered fragment indent) : '\n' ∉ row := by
  obtain ⟨bare, among, rfl⟩ := List.mem_map.mp member
  split
  · simp
  · rw [List.mem_append, not_or]
    exact ⟨clean, not_mem_of_mem_splitOn among⟩

/-- Rows that set a fragment off. -/
def padding (wanted : Bool) : List Text := if wanted then [[]] else []

theorem flatMap_padding (wanted : Bool) : (padding wanted).flatMap solidRows = [] := by
  cases wanted <;> rfl

theorem splice_eq (rows : List Text) (anchor : Anchor) (fragment : Text) (pad : Bool) :
    ∃ above below, splice rows anchor fragment pad = rows.take anchor.index ++
      (padding above ++ rendered fragment anchor.indent ++ padding below) ++
        rows.drop anchor.index := by
  refine ⟨pad && (rows.take anchor.index).getLast?.any (!isBlankText ·),
    pad && (rows.drop anchor.index).head?.any (!isBlankText ·), ?_⟩
  unfold splice padding
  simp only [List.append_assoc]

/-- What is spliced into rows is one block. -/
theorem exists_block {anchor : Anchor} (blank : isBlankText anchor.indent = true)
    (clean : '\n' ∉ anchor.indent) (rows : List Text) (fragment : Text) (pad : Bool) :
    ∃ block, block ≠ [] ∧ block.flatMap solidRows = solidRows fragment ∧
      (∀ row ∈ block, '\n' ∉ row) ∧
      splice rows anchor fragment pad =
        rows.take anchor.index ++ block ++ rows.drop anchor.index := by
  have unbroken {wanted : Bool} {row : Text} (member : row ∈ padding wanted) : '\n' ∉ row := by
    cases wanted <;> simp_all [padding]
  obtain ⟨above, below, spliced⟩ := splice_eq rows anchor fragment pad
  refine ⟨_, ?_, ?_, ?_, spliced⟩
  · simp [rendered_ne_nil]
  · simp only [List.flatMap_append, flatMap_padding, flatMap_rendered blank, List.nil_append,
      List.append_nil]
  · intro row member
    rcases List.mem_append.mp member with inner | lower
    · rcases List.mem_append.mp inner with upper | own
      · exact unbroken upper
      · exact not_mem_of_mem_rendered clean own
    · exact unbroken lower

/-! ### Contents and their rows -/

/-- How the rows of a content make it up: each is closed by a newline, or all but the last are, and
of an empty content there is one empty row. -/
theorem contentRows_cases (content : Text) :
    (content.getLast? = some '\n' ∧ content = closed (contentRows content) ∧
        splitOn '\n' content = contentRows content ++ [[]]) ∨
      (content.getLast? ≠ some '\n' ∧ content = joinLines (contentRows content) ∧
        splitOn '\n' content = contentRows content) := by
  by_cases ends : content.getLast? = some '\n'
  · obtain ⟨front, rfl⟩ := List.getLast?_eq_some_iff.mp ends
    have cut : splitOn '\n' (front ++ ['\n']) = splitOn '\n' front ++ [[]] :=
      splitOn_append '\n' front []
    have rows : contentRows (front ++ ['\n']) = splitOn '\n' front := by
      rw [contentRows, cut, if_pos ends, List.dropLast_concat]
    refine .inl ⟨ends, ?_, ?_⟩
    · rw [rows, ← joinLines_concat_newline (splitOn_ne_nil '\n' front), joinLines_splitOn]
    · rw [rows, cut]
  · have rows : contentRows content = splitOn '\n' content := by rw [contentRows, if_neg ends]
    exact .inr ⟨ends, by rw [rows, joinLines_splitOn], rows.symm⟩

theorem not_mem_of_mem_contentRows {content row : Text} (member : row ∈ contentRows content) :
    '\n' ∉ row := by
  refine @not_mem_of_mem_splitOn '\n' content row ?_
  rw [contentRows] at member
  split at member
  · exact List.dropLast_subset _ member
  · exact member

/-! ### The content after an insertion -/

variable {content fragment : Text} {chain : List Locator} {pad : Bool} {insertion : Insertion}

/-- The rows of a content into which a fragment is inserted that it does not hold: where the block
stands, and how the new content is made up. -/
theorem exists_of_insert? (missing : contains content fragment = false)
    (inserted : insert? content fragment chain pad = some insertion) :
    ∃ above block below, contentRows content = above ++ below ∧
      block.flatMap solidRows = solidRows fragment ∧
      splitOn '\n' (joinLines (above ++ block ++ below)) = above ++ block ++ below ∧
      block ≠ [] ∧ insertion.applied = true ∧
      insertion.content = joinLines (above ++ block ++ below) ++
        if content.isEmpty || content.getLast? = some '\n' then ['\n'] else [] := by
  obtain ⟨locator, anchor, found, used, content'⟩ := insert?_of_not_contains missing inserted
  have among := isIndentAmong_firstAnchor? found
  obtain ⟨block, some', solid', clean, spliced⟩ := exists_block among.isBlankText
    (among.not_mem fun row => not_mem_of_mem_contentRows) (contentRows content) fragment pad
  refine ⟨_, block, _, (List.take_append_drop anchor.index _).symm, solid', ?_, some', ?_, ?_⟩
  · refine splitOn_joinLines (by simp [some']) fun row member => ?_
    rcases List.mem_append.mp member with inner | below
    · rcases List.mem_append.mp inner with above | own
      · exact not_mem_of_mem_contentRows (List.mem_of_mem_take above)
      · exact clean row own
    · exact not_mem_of_mem_contentRows (List.mem_of_mem_drop below)
  · rw [Insertion.applied, used]
    rfl
  · rw [content', spliced]

/-- The rows between newlines are those of the content and one block. -/
theorem widens_splitOn (missing : contains content fragment = false)
    (inserted : insert? content fragment chain pad = some insertion) :
    Widens fragment (splitOn '\n' content) (splitOn '\n' insertion.content) := by
  obtain ⟨above, block, below, rows, solid', cut, -, -, content'⟩ :=
    exists_of_insert? missing inserted
  rw [content']
  rcases contentRows_cases content with ⟨ends, -, split⟩ | ⟨ends, joined, split⟩
  · rw [ends, if_pos (by simp), split, splitOn_append, cut, rows]
    exact ⟨above, block, below ++ [[]], by simp, by simp [splitOn], solid'⟩
  · by_cases empty : content = []
    · -- the newline that an empty content gets makes one more empty row
      rw [empty, if_pos (by simp), splitOn_append, cut]
      rw [empty] at rows
      have only : below ++ [[]] = [[]] ++ below := by
        rcases List.append_eq_singleton_iff.mp (rows.symm : _ = [([] : Text)]) with
          ⟨-, rfl⟩ | ⟨-, rfl⟩ <;> rfl
      refine ⟨above, block ++ [[]], below, rows, ?_, ?_⟩
      · show above ++ block ++ below ++ [[]] = _
        rw [List.append_assoc _ below, only]
        simp
      · rw [List.flatMap_append, solid']
        exact List.append_nil _
    · rw [if_neg (by simp [empty, ends]), List.append_nil, split, cut, rows]
      exact ⟨above, block, below, rfl, rfl, solid'⟩

/-- The lines are those of the content and one block. -/
theorem widens_lines (missing : contains content fragment = false)
    (inserted : insert? content fragment chain pad = some insertion) :
    Widens fragment (lines content) (lines insertion.content) := by
  obtain ⟨above, block, below, rows, solid', cut, some', -, content'⟩ :=
    exists_of_insert? missing inserted
  have own : (lines (closed block)).flatMap solidRows = solidRows fragment := by
    rw [flatMap_lines, solidRows_closed, solid']
  rw [content']
  rcases contentRows_cases content with ⟨ends, made, -⟩ | ⟨ends, made, -⟩
  · rw [ends, if_pos (by simp), joinLines_concat_newline (by simp [some']), closed_append,
      closed_append, List.append_assoc, lines_closed_append, lines_closed_append]
    rw [rows, closed_append] at made
    refine ⟨lines (closed above), lines (closed block), lines (closed below), ?_, ?_, own⟩
    · rw [made, lines_closed_append]
    · simp
  · by_cases empty : content = []
    · rw [empty] at rows ⊢
      refine ⟨[], lines _, [], rfl, (List.append_nil _).symm, ?_⟩
      have blank : (above ++ below).flatMap solidRows = [] := by rw [← rows]; rfl
      rw [List.flatMap_append, List.append_eq_nil_iff] at blank
      rw [flatMap_lines, if_pos (by simp), solidRows_append_right (by decide), solidRows_joinLines,
        List.flatMap_append, List.flatMap_append, blank.1, blank.2, solid', List.nil_append,
        List.append_nil]
    · rw [if_neg (by simp [empty, ends]), List.append_nil]
      by_cases last : below = []
      · -- the last line of the content is closed by the newline before the block
        rw [last, List.append_nil] at rows ⊢
        rw [rows] at made
        have more : above ≠ [] := by
          rintro rfl
          exact empty made
        obtain ⟨extra, longer, blank⟩ := exists_lines_concat_newline content
        refine ⟨lines content, extra ++ lines (joinLines block), [], (List.append_nil _).symm, ?_,
          ?_⟩
        · rw [joinLines_append some', ← joinLines_concat_newline more, ← made]
          show lines ((content ++ ['\n']) ++ joinLines block) = _
          rw [List.append_assoc, List.singleton_append, lines_append_newline, longer]
          simp
        · have silent : extra.flatMap solidRows = [] :=
            List.flatMap_eq_nil_iff.mpr fun row member => by rw [blank row member]; rfl
          rw [List.flatMap_append, silent, flatMap_lines, solidRows_joinLines, solid',
            List.nil_append]
      · rw [rows, joinLines_append last] at made
        rw [joinLines_append last, closed_append, List.append_assoc, lines_closed_append,
          lines_closed_append]
        refine ⟨lines (closed above), lines (closed block), lines (joinLines below), ?_, ?_, own⟩
        · rw [made, lines_closed_append]
        · simp

end GuidedMigration.Code

/-! ### Fragments that are kept -/

namespace GuidedMigration

namespace Text

/-- Unified newlines leave the solid rows: a carriage return breaks a line as a newline does. -/
theorem solidRows_unifyNewlines (text : Text) :
    solidRows (unifyNewlines text) = solidRows text := by
  have same (text : Text) : ((breakRows (unifyNewlines text)).headD [] = (breakRows text).headD [] ∧
      solid (breakRows (unifyNewlines text)).tail = solid (breakRows text).tail) := by
    induction text using unifyNewlines.induct with
    | case1 => exact ⟨rfl, rfl⟩
    | case2 text inductionHypothesis =>
      rw [unifyNewlines, breakRows_of_break isLineBreak_newline, breakRows_of_break (by decide),
        breakRows_of_break isLineBreak_newline]
      refine ⟨rfl, ?_⟩
      show solid (breakRows (unifyNewlines text)) = solid ([] :: breakRows text)
      rw [solid_nil_cons]
      exact solid_congr inductionHypothesis.1 inductionHypothesis.2
    | case3 char text notPair inductionHypothesis =>
      rw [unifyNewlines]
      · cases breaks : isLineBreak char with
        | true =>
          have breaks' : isLineBreak (if char = '\r' then '\n' else char) = true := by
            split
            · exact isLineBreak_newline
            · exact breaks
          rw [breakRows_of_break breaks, breakRows_of_break breaks']
          exact ⟨rfl, solid_congr inductionHypothesis.1 inductionHypothesis.2⟩
        | false =>
          have other : char ≠ '\r' := by
            rintro rfl
            exact absurd breaks (by decide)
          obtain ⟨row, rows, split, longer⟩ := breakRows_of_not_break breaks text
          obtain ⟨row', rows', split', longer'⟩ :=
            breakRows_of_not_break breaks (unifyNewlines text)
          rw [if_neg other, longer, longer']
          rw [split, split'] at inductionHypothesis
          exact ⟨congrArg (char :: ·) inductionHypothesis.1, inductionHypothesis.2⟩
      · exact notPair
  exact solid_congr (same text).1 (same text).2

end Text

namespace Code

open Text

variable {content fragment other : Text} {primitive : Primitive} {insertion : Insertion}

/-- Whether the solid rows of a fragment stand together in a content. -/
def StandsIn (content fragment : Text) : Prop := solidRows fragment <:+: solidRows content

theorem StandsIn.contains (stands : StandsIn content fragment) :
    contains content fragment = true := by
  obtain ⟨before, behind, rows⟩ := stands
  exact contains_of_solidRows rows.symm

/-- Whether a fragment of a kind is put between the rows of another fragment: the place for it is
such that neither the rows above it nor those below have all of them. -/
def Primitive.Cuts (primitive : Primitive) (content other fragment : Text) : Prop :=
  Code.contains content other = false ∧
    ∃ locator anchor, firstAnchor? (contentRows content) primitive.chain = some (locator, anchor) ∧
      ¬ solidRows fragment <:+: ((contentRows content).take anchor.index).flatMap solidRows ∧
      ¬ solidRows fragment <:+: ((contentRows content).drop anchor.index).flatMap solidRows

theorem flatMap_contentRows (content : Text) :
    (contentRows content).flatMap solidRows = solidRows content := by
  rcases contentRows_cases content with ⟨-, made, -⟩ | ⟨-, made, -⟩
  · rw [← solidRows_closed, ← made]
  · rw [← solidRows_joinLines, ← made]

/-- A fragment that is inserted stands in the content afterwards. -/
theorem standsIn_of_insert? (missing : Code.contains content fragment = false)
    (inserted : primitive.insert? content fragment = some insertion) :
    StandsIn insertion.content fragment := by
  obtain ⟨locator, anchor, -, rows⟩ := solidRows_insert? missing inserted
  exact ⟨_, _, rows.symm⟩

/-- A fragment that stands in a content stands there after an insertion that does not cut it. -/
theorem StandsIn.insert? (stands : StandsIn content fragment)
    (inserted : primitive.insert? content other = some insertion)
    (whole : ¬ primitive.Cuts content other fragment) : StandsIn insertion.content fragment := by
  cases held : Code.contains content other with
  | true =>
    rw [Primitive.insert?, Code.insert?, held, if_pos rfl] at inserted
    obtain rfl := Option.some.inj inserted
    exact stands
  | false =>
    obtain ⟨locator, anchor, found, rows⟩ := solidRows_insert? held inserted
    rw [StandsIn, rows, List.append_assoc]
    by_cases above : solidRows fragment <:+:
        ((contentRows content).take anchor.index).flatMap solidRows
    · exact above.trans (List.prefix_append _ _).isInfix
    · by_cases below : solidRows fragment <:+:
          ((contentRows content).drop anchor.index).flatMap solidRows
      · exact below.trans ((List.suffix_append _ _).trans (List.suffix_append _ _)).isInfix
      · exact absurd ⟨held, locator, anchor, found, above, below⟩ whole

/-- A single row is not cut. -/
theorem not_cuts_of_single (stands : StandsIn content fragment)
    (single : (solidRows fragment).length ≤ 1) (primitive : Primitive) (other : Text) :
    ¬ primitive.Cuts content other fragment := by
  rintro ⟨-, locator, anchor, -, above, below⟩
  rw [StandsIn, ← flatMap_contentRows content,
    ← List.take_append_drop anchor.index (contentRows content), List.flatMap_append] at stands
  match rows : solidRows fragment with
  | [] => exact above (rows ▸ List.nil_infix)
  | [row] =>
    have together {others : List Text} (member : row ∈ others) : [row] <:+: others := by
      obtain ⟨before, behind, rfl⟩ := List.append_of_mem member
      exact ⟨before, behind, by simp⟩
    rw [rows] at above below stands
    exact (List.mem_append.mp (stands.subset List.mem_cons_self)).elim
      (fun member => above (together member)) fun member => below (together member)
  | _ :: _ :: _ => simp [rows] at single

end Code

end GuidedMigration
