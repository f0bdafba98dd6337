/-
This file reads the lines of a well fenced text as rows. In whatever block the line of a fence
stands, it is a fence there, and a line outside of all regions is none. The lines of a region, seen
from the column of its fence, are what the scan for steps cuts from them.
-/
import GuidedMigration.Proofs.Guide.WellFenced
import GuidedMigration.Proofs.Markdown.Barrier
import GuidedMigration.Proofs.Text.Lines

namespace GuidedMigration.Markdown

open Text Guide

variable {frame : Frame} {index : Nat} {line : Text} {isClosed : Bool} {fence opening : Fence}

/-! ### Lines that open a region -/

theorem isSpaceOrTab_of_mark {mark : Char} (marked : mark = '\x60' ∨ mark = '~') :
    isSpaceOrTab mark = false ∧ isMarginal mark = false ∧ isBlank mark = false := by
  rcases marked with rfl | rfl <;> decide

/-- The row of a line with spaces at its start and no further blank behind them. -/
theorem row_of_spaces {margin : Nat} {rest : Text}
    (solid : rest.head?.all (!isSpaceOrTab ·) = true) :
    (Row.ofLine (List.replicate margin ' ' ++ rest) isClosed).content = rest ∧
      (Row.ofLine (List.replicate margin ' ' ++ rest) isClosed).column = margin := by
  have measured := Row.measure_spaces 0 0 margin solid
  constructor
  · show (List.replicate margin ' ' ++ rest).drop (Row.measure 0 0 _).1 = _
    rw [measured, List.drop_append_of_le_length (by simp), List.drop_of_length_le (by simp),
      List.nil_append]
  · show (((Row.measure 0 0 _).2 : Nat) : Int) = _
    rw [measured, Nat.zero_add]

theorem row_of_marks {margin size : Nat} {mark : Char} {rest : Text}
    (marked : mark = '\x60' ∨ mark = '~') (some' : 0 < size) :
    (Row.ofLine (List.replicate margin ' ' ++ (List.replicate size mark ++ rest))
        isClosed).content = List.replicate size mark ++ rest ∧
      (Row.ofLine (List.replicate margin ' ' ++ (List.replicate size mark ++ rest))
        isClosed).column = margin := by
  refine row_of_spaces ?_
  obtain ⟨size, rfl⟩ := Nat.exists_eq_add_of_lt some'
  simp [List.replicate_succ, (isSpaceOrTab_of_mark marked).1]

theorem row_of_opens? (opened : opens? index line = some opening) :
    (Row.ofLine line isClosed).content =
        List.replicate opening.size opening.mark ++ opening.info line ∧
      (Row.ofLine line isClosed).column = opening.indent := by
  obtain ⟨parts, -, marked, several, -⟩ := parts_of_opens? opened
  have row := @row_of_marks isClosed opening.indent opening.size opening.mark (opening.info line)
    marked (by omega)
  rwa [← parts] at row

theorem takeWhile_marks {mark : Char} {info : Text} (other : info.head? ≠ some mark)
    (size : Nat) :
    (List.replicate size mark ++ info).takeWhile (· = mark) = List.replicate size mark := by
  rw [List.takeWhile_append_of_pos (by simp)]
  cases info with
  | nil => simp
  | cons char info =>
    have different : char ≠ mark := fun same => other (by rw [same]; rfl)
    rw [List.takeWhile_cons_of_neg (by simpa using different), List.append_nil]

theorem fence?_of_opens? (opened : opens? index line = some opening)
    (well : opening.isWellOpened frame.dialect line = true) :
    frame.fence? (Row.ofLine line isClosed) =
        some (opening.mark, opening.size, opening.info line) := by
  obtain ⟨content, column⟩ := @row_of_opens? index line isClosed opening opened
  obtain ⟨-, other, marked, several, -⟩ := parts_of_opens? opened
  obtain ⟨shallow, -, said⟩ := Fence.spec_of_isWellOpened well
  obtain ⟨size, large⟩ : ∃ size, opening.size = size + 1 := ⟨opening.size - 1, by omega⟩
  have noCode : frame.isCode (Row.ofLine line isClosed) = false := by
    rw [Frame.isCode, column, Bool.and_eq_false_iff]
    exact .inr (decide_eq_false (by omega))
  have marks := takeWhile_marks other size
  have noTick : opening.mark = '\x60' → opening.mark ∉ opening.info line :=
    fun tick member => (said _ member).1 tick
  rw [Frame.fence?, noCode, if_neg Bool.false_ne_true, content, large, List.replicate_succ,
    List.cons_append]
  dsimp only
  rw [marks, List.length_replicate, Nat.add_sub_cancel, List.drop_append_of_le_length (by simp),
    List.drop_of_length_le (by simp), List.nil_append]
  have fits : (size + 1 < 3 || (opening.mark = '\x60' && (opening.info line).contains opening.mark))
      = false := by
    rw [Bool.or_eq_false_iff, decide_eq_false_iff_not, Bool.and_eq_false_iff]
    refine ⟨by omega, ?_⟩
    by_cases tick : opening.mark = '\x60'
    · exact .inr (by simpa using noTick tick)
    · exact .inl (decide_eq_false tick)
  rw [if_pos (by simpa using marked), if_neg (by rw [fits]; simp)]

theorem isBarrier_of_opens? (spoken : frame.dialect.isPlain = false)
    (opened : opens? index line = some opening)
    (well : opening.isWellOpened frame.dialect line = true) :
    frame.IsBarrier (Row.ofLine line isClosed) where
  spoken := spoken
  solid := by
    obtain ⟨content, -⟩ := @row_of_opens? index line isClosed opening opened
    obtain ⟨-, -, -, several, -⟩ := parts_of_opens? opened
    refine eq_false_of_ne_true fun empty => ?_
    have none' := congrArg List.length (content.symm.trans (Row.isEmpty_iff.mp empty))
    simp at none'
    omega
  inside := by
    rw [(row_of_opens? opened).2]
    exact Int.natCast_nonneg _
  fenced := by rw [fence?_of_opens? opened well]; rfl

theorem mem_of_mem_trim {text : Text} {char : Char} (member : char ∈ trim text) : char ∈ text := by
  obtain ⟨left, right, -, -, whole⟩ := exists_trimWhile isBlank text
  rw [whole]
  exact List.mem_append_left _ (List.mem_append_right _ member)

/-- No table starts with the line of a fence. -/
theorem tableHead?_of_opens? {last place : Nat} (opened : opens? index line = some opening)
    (well : opening.isWellOpened frame.dialect line = true)
    (shown : frame.row place = Row.ofLine line isClosed) : frame.tableHead? place last = none := by
  rw [Frame.tableHead?]
  dsimp only
  split
  · rfl
  · rename_i tables
    simp only [Bool.or_eq_true, Bool.not_eq_true', not_or, Bool.not_eq_false] at tables
    obtain ⟨content, -⟩ := @row_of_opens? index line isClosed opening opened
    obtain ⟨-, -, marked, -, -⟩ := parts_of_opens? opened
    have said := (Fence.spec_of_isWellOpened well).2.2
    have noBar : (trim (frame.row place).content).contains '|' = false := by
      refine eq_false_of_ne_true fun bar => ?_
      have member := mem_of_mem_trim (List.contains_iff_mem.mp bar)
      rw [shown, content, List.mem_append, List.mem_replicate] at member
      rcases member with ⟨-, same⟩ | behind
      · rcases marked with tick | tick <;> exact absurd (same.trans tick) (by decide)
      · exact (said _ behind).2.1 tables.1.1 rfl
    cases Frame.columnCount? (trim (frame.row (place + 1)).content) with
    | none => rfl
    | some count =>
      show (if _ then none else some _) = none
      rw [noBar]
      rfl

/-! ### Lines outside of all regions -/

theorem exists_two_marks {mark : Char} {text : Text}
    (several : 2 ≤ (text.takeWhile (· = mark)).length) : ∃ rest, text = mark :: mark :: rest := by
  match text with
  | [] => simp at several
  | [first] =>
    have short := (@List.takeWhile_prefix _ [first] (· = mark)).length_le
    rw [List.length_singleton] at short
    omega
  | first :: second :: rest =>
    rw [List.takeWhile_cons] at several
    split at several
    · rename_i firstMark
      rw [List.takeWhile_cons] at several
      split at several
      · rename_i secondMark
        rw [decide_eq_true_eq] at firstMark secondMark
        exact ⟨rest, by rw [firstMark, secondMark]⟩
      · simp at several
    · simp at several

theorem fence?_of_isPlainLine {row : Row} (left : row.IsLeftOf line)
    (plain : isPlainLine frame.dialect line = true) : frame.fence? row = none := by
  simp only [isPlainLine, Bool.and_eq_true, Bool.not_eq_true'] at plain
  obtain ⟨⟨⟨backticks, tildes⟩, -⟩, -⟩ := plain
  rw [Frame.fence?]
  split
  · rfl
  · split
    · rename_i mark rest content
      split
      · rename_i marked
        dsimp only
        split
        · rfl
        · rename_i fits
          simp only [Bool.or_eq_true, decide_eq_true_eq, not_or] at fits marked
          have core := left.content_eq content (isSpaceOrTab_of_mark marked).2.1
          obtain ⟨tail, rfl⟩ := @exists_two_marks mark rest (by omega)
          rw [← core, content] at backticks tildes
          rcases marked with rfl | rfl
          · exact absurd backticks (by simp [startsWith, dropPrefix?])
          · exact absurd tildes (by simp [startsWith, dropPrefix?])
      · rfl
    · rfl

theorem startsWith_eq_false {first : Char} {start text : Text} (other : text.head? ≠ some first) :
    startsWith (first :: start) text = false := by
  cases text with
  | nil => rfl
  | cons char text =>
    have different : first ≠ char := fun same => other (by rw [same]; rfl)
    rw [startsWith, dropPrefix?, if_neg different]
    rfl

/-- HTML starts with an angle bracket. -/
theorem blockEnding?_eq_none {text : Text} (other : text.head? ≠ some '<') :
    Tag.blockEnding? text = none := by
  have away {rest : Text} : text ≠ '<' :: rest := fun same => other (by rw [same]; rfl)
  have raw : Tag.opensRaw text = false := by
    rw [Tag.opensRaw]
    exact fun _ => away
  have block : Tag.opensBlock text = false := by
    rw [Tag.opensBlock]
    exact fun _ => away
  have single : Tag.isSingleTag text = false := by
    have opening : Tag.behindOpening? text = none := by
      rw [Tag.behindOpening?]
      exact fun _ _ => away
    have closing : Tag.behindClosing? text = none := by
      rw [Tag.behindClosing?]
      exact fun _ _ => away
    rw [Tag.isSingleTag, opening, closing]
    rfl
  have mark (start : Text) : startsWith ('<' :: start) text = false := startsWith_eq_false other
  have data : startsWith Tag.dataMark text = false := mark ['!', '[', 'C', 'D', 'A', 'T', 'A', '[']
  rw [Tag.blockEnding?, raw, mark, mark, Tag.opensDeclaration, mark, data, block, single]
  rfl

theorem html?_of_isPlainLine {row : Row} (left : row.IsLeftOf line)
    (plain : isPlainLine frame.dialect line = true) : frame.html? row = none := by
  simp only [isPlainLine, Bool.and_eq_true, Bool.or_eq_true, Bool.not_eq_true'] at plain
  obtain ⟨⟨-, html⟩, -⟩ := plain
  rw [Frame.html?]
  split
  · rfl
  · rename_i reads
    simp only [Bool.or_eq_true, Bool.not_eq_true', not_or, Bool.not_eq_false] at reads
    cases found : Tag.blockEnding? row.content with
    | none => rfl
    | some ending =>
      have first : row.content.head? = some '<' := Classical.byContradiction fun other => by
        simp [blockEnding?_eq_none other] at found
      obtain ⟨rest, content⟩ := List.head?_eq_some_iff.mp first
      rw [← left.content_eq content (by decide), found, reads.2] at html
      simp at html

/-! ### Lines that close a region -/

theorem trim_of_marks {mark : Char} {size : Nat} {before behind : Text}
    (marked : mark = '\x60' ∨ mark = '~') (blankBefore : isBlankText before = true)
    (blankBehind : isBlankText behind = true) :
    trim (before ++ (List.replicate size mark ++ behind)) = List.replicate size mark := by
  rw [trim_append_left blankBefore, trim_append_right blankBehind, trim, trimWhile, trimLeftWhile,
    trimRightWhile]
  simp [(isSpaceOrTab_of_mark marked).2.2]

/-- A line that closes a region consists of spaces, marks, and blanks. -/
theorem parts_of_isClosedBy (marked : fence.mark = '\x60' ∨ fence.mark = '~')
    (closed : fence.isClosedBy line = true)
    (well : fence.isWellClosed line = true) :
    ∃ margin count blanks, line = List.replicate margin ' ' ++
        (List.replicate count fence.mark ++ blanks) ∧
      fence.indent ≤ margin ∧ margin ≤ 3 ∧ fence.size ≤ count ∧
      blanks.all isSpaceOrTab = true := by
  simp only [Fence.isWellClosed, Bool.and_eq_true, decide_eq_true_eq] at well
  obtain ⟨⟨deep, shallow⟩, blank⟩ := well
  rw [drop_length_takeWhile] at blank
  have parts : line = List.replicate (line.takeWhile (· = ' ')).length ' ' ++
      (List.replicate ((line.dropWhile (· = ' ')).takeWhile (· = fence.mark)).length fence.mark ++
        (line.dropWhile (· = ' ')).dropWhile (· = fence.mark)) := by
    rw [← takeWhile_eq_replicate, ← takeWhile_eq_replicate, List.takeWhile_append_dropWhile,
      List.takeWhile_append_dropWhile]
  refine ⟨_, _, _, parts, deep, shallow, ?_, blank⟩
  have trimmed := @trim_of_marks fence.mark
    ((line.dropWhile (· = ' ')).takeWhile (· = fence.mark)).length
    (List.replicate (line.takeWhile (· = ' ')).length ' ')
    ((line.dropWhile (· = ' ')).dropWhile (· = fence.mark)) marked
    (by simp [isBlankText, isBlank]) (isBlankText_of_all_isSpaceOrTab blank)
  rw [← parts] at trimmed
  rw [Fence.isClosedBy, trimmed, Bool.and_eq_true, decide_eq_true_eq, List.length_replicate]
    at closed
  exact closed.1

/-- A line that closes a region closes its fence. -/
theorem closesFence_of_isClosedBy (marked : fence.mark = '\x60' ∨ fence.mark = '~')
    (several : 0 < fence.size) (closed : fence.isClosedBy line = true)
    (well : fence.isWellClosed line = true) :
    frame.closesFence fence.mark fence.size (Row.ofLine line isClosed) = true ∧
      (fence.indent : Int) ≤ (Row.ofLine line isClosed).column ∧
      (Row.ofLine line isClosed).isEmpty = false := by
  obtain ⟨margin, count, blanks, rfl, deep, shallow, size, blank⟩ :=
    parts_of_isClosedBy marked closed well
  obtain ⟨content, column⟩ := @row_of_marks isClosed margin count fence.mark blanks marked
    (by omega)
  have other : blanks.head? ≠ some fence.mark := fun same => by
    have member := List.mem_of_mem_head? (Option.mem_def.mpr same)
    have space := List.all_eq_true.mp blank _ member
    rw [(isSpaceOrTab_of_mark marked).1] at space
    exact Bool.false_ne_true space
  refine ⟨?_, by rw [column]; omega, eq_false_of_ne_true fun empty => ?_⟩
  · rw [Frame.closesFence, content, takeWhile_marks other, List.length_replicate,
      List.drop_append_of_le_length (by simp), List.drop_of_length_le (by simp), List.nil_append,
      blank, Bool.and_true, Bool.and_eq_true, decide_eq_true_eq, Frame.isCode, column]
    refine ⟨?_, size⟩
    rw [Bool.not_eq_true', Bool.and_eq_false_iff]
    exact .inr (decide_eq_false (by omega))
  · have none' := congrArg List.length (content.symm.trans (Row.isEmpty_iff.mp empty))
    simp at none'
    omega

/-! ### Lines inside of a region -/

/-- A line that closes a fence closes its region. -/
theorem closesFence_eq_false (marked : fence.mark = '\x60' ∨ fence.mark = '~')
    (open' : fence.isClosedBy line = false) :
    frame.closesFence fence.mark fence.size (Row.ofLine line isClosed) = false := by
  refine eq_false_of_ne_true fun closes => ?_
  rw [Frame.closesFence, Row.content_ofLine, drop_length_takeWhile (· = fence.mark),
    Bool.and_eq_true, Bool.and_eq_true, decide_eq_true_eq] at closes
  have trimmed := @trim_of_marks fence.mark
    ((line.dropWhile isSpaceOrTab).takeWhile (· = fence.mark)).length
    (line.takeWhile isSpaceOrTab) ((line.dropWhile isSpaceOrTab).dropWhile (· = fence.mark)) marked
    (isBlankText_of_all_isSpaceOrTab List.all_takeWhile) (isBlankText_of_all_isSpaceOrTab closes.2)
  rw [← takeWhile_eq_replicate, List.takeWhile_append_dropWhile, List.takeWhile_append_dropWhile,
    takeWhile_eq_replicate] at trimmed
  rw [Fence.isClosedBy, trimmed, List.length_replicate, Bool.and_eq_false_iff] at open'
  rcases open' with short | other
  · rw [decide_eq_false_iff_not] at short
    exact short closes.1.2
  · simp at other

/-- A line inside of a region is blank, or it starts with the indentation of the region. -/
theorem parts_of_isWellFilled (filled : fence.isWellFilled line = true) :
    line.all isSpaceOrTab = true ∨ ∃ rest, line = List.replicate fence.indent ' ' ++ rest := by
  have spaces : ∀ char ∈ line.take fence.indent, char = ' ' := fun char member => by
    simpa using List.all_eq_true.mp filled char member
  by_cases long : fence.indent ≤ line.length
  · refine .inr ⟨line.drop fence.indent, ?_⟩
    rw [← List.eq_replicate_iff.mpr ⟨List.length_take_of_le long, spaces⟩, List.take_append_drop]
  · rw [List.take_of_length_le (by omega)] at spaces
    exact .inl (List.all_eq_true.mpr fun char member => by rw [spaces char member]; rfl)

theorem column_of_isWellFilled (filled : fence.isWellFilled line = true)
    (solid : (Row.ofLine line isClosed).isEmpty = false) :
    (fence.indent : Int) ≤ (Row.ofLine line isClosed).column := by
  rcases parts_of_isWellFilled filled with blank | ⟨rest, rfl⟩
  · rw [Row.isEmpty_ofLine, blank] at solid
    exact absurd solid.symm Bool.false_ne_true
  · have measured := (Row.measure_snd 0 0 (List.replicate fence.indent ' ' ++ rest)).1
    rw [Row.measure_fst, List.takeWhile_append_of_pos (by simp [isSpaceOrTab]),
      List.length_append, List.length_replicate] at measured
    show (fence.indent : Int) ≤
      ((Row.measure 0 0 (List.replicate fence.indent ' ' ++ rest)).2 : Nat)
    omega

theorem passIndent_of_spaces {indent base margin column : Nat} {text : Text}
    (before : column ≤ indent) (spaces : (text.take (indent - column)).all (· = ' ') = true) :
    ∃ reached ≤ indent, Row.passIndent indent base margin column text =
      (reached, text.drop (indent - column)) := by
  induction text generalizing column margin with
  | nil => exact ⟨column, before, by rw [Row.passIndent, List.drop_nil]⟩
  | cons char text inductionHypothesis =>
    rw [Row.passIndent]
    by_cases inside : column < indent
    · obtain ⟨left, more⟩ : ∃ left, indent - column = left + 1 := ⟨indent - column - 1, by omega⟩
      rw [more, List.take_succ_cons, List.all_cons, Bool.and_eq_true, decide_eq_true_eq] at spaces
      obtain ⟨rfl, spaces⟩ := spaces
      have space : isSpaceOrTab ' ' = true := by decide
      have next : Row.nextColumn base column ' ' = column + 1 := rfl
      have fewer : left = indent - (column + 1) := by omega
      rw [space, Bool.true_or, Bool.and_true, if_pos (by simpa using inside), if_pos rfl, next,
        more, List.drop_succ_cons, fewer]
      exact inductionHypothesis inside (fewer ▸ spaces)
    · have reached : indent - column = 0 := by omega
      rw [decide_eq_false inside, Bool.false_and, if_neg Bool.false_ne_true, reached,
        List.drop_zero]
      exact ⟨column, before, rfl⟩

/-- What is cut from a line is the indentation of its region. -/
theorem cut_of_isWellFilled (filled : fence.isWellFilled line = true) :
    fence.cut line = line.drop fence.indent := by
  have margin : line.takeWhile (· = ' ') =
      line.take fence.indent ++ (line.drop fence.indent).takeWhile (· = ' ') := by
    conv => lhs; rw [← List.take_append_drop fence.indent line]
    exact List.takeWhile_append_of_pos fun char member => List.all_eq_true.mp filled char member
  have long := congrArg List.length margin
  rw [List.length_append, List.length_take] at long
  rw [Fence.cut]
  rcases Nat.lt_or_ge (line.takeWhile (· = ' ')).length fence.indent with short | deep
  · rw [List.drop_of_length_le (by omega), List.drop_of_length_le (by omega)]
  · rw [Nat.min_eq_left deep]

/-- Seen from the column of its fence, a line is what is cut from it. -/
theorem withoutIndent_of_isWellFilled (filled : fence.isWellFilled line = true) :
    (Row.ofLine line isClosed).withoutIndent fence.indent = fence.cut line := by
  obtain ⟨reached, within, passed⟩ := @passIndent_of_spaces fence.indent
    (Row.ofLine line isClosed).base (Row.ofLine line isClosed).margin 0 line (Nat.zero_le _) filled
  have text : (Row.ofLine line isClosed).text = line := rfl
  rw [Row.withoutIndent, text, passed, cut_of_isWellFilled filled]
  dsimp only
  rw [Nat.sub_eq_zero_of_le within, Nat.sub_zero]
  rfl

end GuidedMigration.Markdown
