/-
This file says when the rows of a frame show the lines of a well fenced text. Lines that belong to a
fenced region are rows as they stand; of all other lines a row shows what is left behind the marks
of quotes and list items, and that is never nested too deeply. The frames inside quotes and list
items show the same lines again.

So the fenced code of a well fenced text can be read. A fence ends where the region that begins with
it is closed, or with the last row, and the rows between are what the region holds.
-/
import GuidedMigration.Proofs.Markdown.FenceRow

namespace GuidedMigration.Markdown.Frame

open Text Guide

variable {lines : List Text} {frame : Frame} {first stop index next : Nat} {line : Text}
  {opening : Fence}

/-- What it is for the rows of a frame to show lines, where blocks are looked for from one index up
to another. -/
structure Shows (lines : List Text) (frame : Frame) (first stop : Nat) : Prop where
  spoken : frame.dialect.isPlain = false
  set : AreSet frame.dialect lines
  clean : ∀ line ∈ lines, '\n' ∉ line
  reach : stop ≤ frame.limit ∧ frame.limit ≤ frame.rows.size ∧ frame.rows.size ≤ lines.length
  /-- Lines that are not shown are blank. -/
  blank : ∀ index line, lines[index]? = some line → frame.rows.size ≤ index →
    line.all isSpaceOrTab = true
  /-- No region goes on behind the last index. -/
  ends : openAt lines stop = none ∨ frame.rows.size ≤ stop
  kept : ∀ index line, lines[index]? = some line → index < frame.rows.size → ¬ IsFree lines index →
    ∃ isClosed, frame.row index = Row.ofLine line isClosed ∧
      (isClosed = true ∨ index + 1 = frame.rows.size ∧ line.all isSpaceOrTab = false)
  left : ∀ index line, lines[index]? = some line → index < frame.rows.size → IsFree lines index →
    (frame.row index).IsLeftOf line
  shallow : ∀ index, first ≤ index → index < stop → openAt lines index = none →
    (frame.indent : Int) ≤ (frame.row index).column →
    frame.level + nesting (frame.row index).content + ((frame.row index).column - frame.indent) <
      (frame.dialect.depth : Int)

namespace Shows

variable (shows : frame.Shows lines first stop)
include shows

theorem stop_le : stop ≤ frame.rows.size := Nat.le_trans shows.reach.1 shows.reach.2.1

theorem exists_line (inside : index < frame.rows.size) : ∃ line, lines[index]? = some line :=
  ⟨_, List.getElem?_eq_getElem (Nat.lt_of_lt_of_le inside shows.reach.2.2)⟩

/-- A line that begins a region is shown. -/
theorem lt_of_begins (begins : Begins lines index opening) : index < frame.rows.size := by
  obtain ⟨-, line, found, opened⟩ := begins
  refine Nat.lt_of_not_le fun past => ?_
  obtain ⟨parts, -, marked, several, -⟩ := parts_of_opens? opened
  have member : opening.mark ∈ line := by
    rw [parts]
    refine List.mem_append_right _ (List.mem_append_left _ ?_)
    exact List.mem_replicate.mpr ⟨by omega, rfl⟩
  have space := List.all_eq_true.mp (shows.blank index line found past) _ member
  rw [(isSpaceOrTab_of_mark marked).1] at space
  exact Bool.false_ne_true space

/-- A line that begins a region is a row as it stands. -/
theorem exists_row_of_begins (begins : Begins lines index opening) :
    ∃ line isClosed, lines[index]? = some line ∧ opens? index line = some opening ∧
      opening.isWellOpened frame.dialect line = true ∧
      frame.row index = Row.ofLine line isClosed := by
  have inside := shows.lt_of_begins begins
  have taken := not_free_of_begins begins
  obtain ⟨-, line, found, opened⟩ := id begins
  obtain ⟨isClosed, row, -⟩ := shows.kept index line found inside taken
  exact ⟨line, isClosed, found, opened, shows.set.isWellOpened begins found, row⟩

theorem isBarrier (begins : Begins lines index opening) : frame.IsBarrier (frame.row index) := by
  obtain ⟨line, isClosed, -, opened, well, row⟩ := shows.exists_row_of_begins begins
  rw [row]
  exact isBarrier_of_opens? shows.spoken opened well

theorem isFree (inside : index < frame.rows.size) (outside : openAt lines index = none)
    (noBarrier : frame.IsBarrier (frame.row index) → False) : IsFree lines index := by
  rcases free_or_begins outside (Nat.lt_of_lt_of_le inside shows.reach.2.2) with free | ⟨_, begins⟩
  · exact free
  · exact absurd (shows.isBarrier begins) noBarrier

/-- From a line outside of all regions on, none begins up to an index that is not behind a fence. -/
theorem openAt_eq_none {start between : Nat} (outside : openAt lines start = none)
    (within : frame.IsWithin start next) (later : start ≤ between) (before : between ≤ next) :
    openAt lines between = none :=
  openAt_eq_none_of_le outside later fun place from' earlier opening begins =>
    absurd (within.stops place from' (shows.isBarrier begins)) (by omega)

/-- What is known of a line outside of all regions that begins none. -/
theorem left_of_free (free : IsFree lines index) (inside : index < frame.rows.size) :
    ∃ line, (frame.row index).IsLeftOf line ∧ isPlainLine frame.dialect line = true := by
  obtain ⟨line, found⟩ := shows.exists_line inside
  exact ⟨line, shows.left index line found inside free, shows.set.isPlainLine free found⟩

theorem fence?_eq_none (free : IsFree lines index) (inside : index < frame.rows.size) :
    frame.fence? (frame.row index) = none := by
  obtain ⟨line, left, plain⟩ := shows.left_of_free free inside
  exact fence?_of_isPlainLine left plain

theorem html?_eq_none (free : IsFree lines index) (inside : index < frame.rows.size) :
    frame.html? (frame.row index) = none := by
  obtain ⟨line, left, plain⟩ := shows.left_of_free free inside
  exact html?_of_isPlainLine left plain

/-- Rows from a later index on are shown as well. -/
theorem later {other : Nat} (behind : first ≤ other) : frame.Shows lines other stop where
  spoken := shows.spoken
  set := shows.set
  clean := shows.clean
  reach := shows.reach
  blank := shows.blank
  ends := shows.ends
  kept := shows.kept
  left := shows.left
  shallow index from' := shows.shallow index (Nat.le_trans behind from')

end Shows

/-! ### Inside of an item -/

theorem row_setIfInBounds (frame inner : Frame) (row : Row)
    (rows : inner.rows = frame.rows.setIfInBounds index row) (inside : index < frame.rows.size) :
    inner.row index = row ∧ ∀ other, other ≠ index → inner.row other = frame.row other := by
  refine ⟨?_, fun other different => ?_⟩
  · rw [Frame.row, rows, Array.getElem?_setIfInBounds_self_of_lt inside]
    rfl
  · rw [Frame.row, rows, Array.getElem?_setIfInBounds_ne (Ne.symm different), Frame.row]

/-- Where the content of an item starts, what is left of its row, and how deep it can be nested. -/
structure IsItem (frame inner : Frame) (mark : ItemMark) (index : Nat) : Prop where
  content : (inner.row index).content =
    ((frame.row index).content.drop mark.size).dropWhile isSpaceOrTab
  indent : (frame.row index).column.toNat + mark.size + 1 ≤ inner.indent
  column : (inner.row index).isEmpty = true ∨ (inner.indent : Int) ≤ (inner.row index).column
  nested : (inner.row index).column + nesting (inner.row index).content ≤
    (frame.row index).column.toNat + nesting (frame.row index).content

theorem isItem_itemFrame {mark : ItemMark} (inside : index < frame.rows.size)
    (found : itemMark? (frame.row index).content = some mark) :
    frame.IsItem (frame.itemFrame mark index).1 mark index := by
  obtain ⟨-, -, follows, nested⟩ := itemMark?_spec found
  generalize same : frame.row index = row at found follows nested
  generalize rest' : row.content.drop mark.size = rest at follows nested
  obtain ⟨blanks, column, measured⟩ : ∃ blanks column,
      Row.measure row.base (row.column.toNat + mark.size) rest = (blanks, column) := ⟨_, _, rfl⟩
  have wide := Row.measure_snd row.base (row.column.toNat + mark.size) rest
  have skipped := Row.drop_measure row.base (row.column.toNat + mark.size) rest
  have some' : rest ≠ [] → 1 ≤ (Row.measure row.base (row.column.toNat + mark.size) rest).1 := by
    intro more
    obtain ⟨char, behind, rfl⟩ := List.exists_cons_of_ne_nil more
    have blank : isSpaceOrTab char = true := by simpa [mayFollowMark] using follows
    rw [Row.measure_fst, List.takeWhile_cons_of_pos blank]
    exact Nat.succ_le_succ (Nat.zero_le _)
  rw [measured] at wide skipped some'
  have own := (@row_setIfInBounds index frame (frame.itemFrame mark index).1
    { row with margin := row.margin + mark.size + blanks, column := column }
    (by rw [itemFrame, same, rest', measured]) inside).1
  have indent : (frame.itemFrame mark index).1.indent = row.column.toNat + mark.size +
      if rest.length ≤ blanks || 4 < column - (row.column.toNat + mark.size) then 1
      else column - (row.column.toNat + mark.size) := by
    rw [itemFrame, same, rest', measured]
  have content : ((frame.itemFrame mark index).1.row index).content = rest.drop blanks := by
    rw [own, Row.content, ← rest', Row.content, List.drop_drop, List.drop_drop]
    simp only [Nat.add_assoc]
  have more : rest.length ≤ blanks ∨ row.column.toNat + mark.size + 1 ≤ column := by
    rcases Nat.lt_or_ge blanks rest.length with longer | short
    · have blank := some' fun none' => by simp [none'] at longer
      exact .inr (by dsimp only at blank wide; omega)
    · exact .inl short
  dsimp only at wide skipped
  refine ⟨?_, ?_, ?_, ?_⟩
  · rw [content, skipped, same, rest']
  · rw [same, indent]
    split
    · omega
    · rename_i deep
      simp only [Bool.or_eq_true, decide_eq_true_eq, not_or] at deep
      omega
  · rcases more with empty | deep
    · exact .inl (Row.isEmpty_iff.mpr (content.trans (List.drop_of_length_le empty)))
    · refine .inr ?_
      rw [indent, own]
      dsimp only
      split <;> omega
  · rw [content, skipped, own, same, nested]
    dsimp only
    omega

/-- The frame inside of an item shows the lines from the item's first one on. -/
theorem Shows.item {mark : ItemMark} (shows : frame.Shows lines first stop) (from' : first ≤ index)
    (before : index < stop) (free : IsFree lines index)
    (deep : (frame.indent : Int) ≤ (frame.row index).column)
    (found : itemMark? (frame.row index).content = some mark) :
    (frame.itemFrame mark index).1.Shows lines index stop := by
  have inside := Nat.lt_of_lt_of_le before shows.stop_le
  have item := isItem_itemFrame inside found
  obtain ⟨some', marginal, -, -⟩ := itemMark?_spec found
  have others := (row_setIfInBounds frame (frame.itemFrame mark index).1 _ rfl inside).2
  have size : (frame.itemFrame mark index).1.rows.size = frame.rows.size :=
    Array.size_setIfInBounds
  have level : (frame.itemFrame mark index).1.level = frame.level + 2 := rfl
  have bound := shows.shallow index from' before free.1 deep
  exact {
    spoken := shows.spoken
    set := shows.set
    clean := shows.clean
    reach := by rw [size]; exact shows.reach
    blank := by rw [size]; exact shows.blank
    ends := by rw [size]; exact shows.ends
    kept := by
      intro other line found' shown taken
      rw [size] at shown ⊢
      rw [others other fun same => taken (same ▸ free)]
      exact shows.kept other line found' shown taken
    left := by
      intro other line found' shown free'
      rw [size] at shown
      have left := shows.left other line found' shown free'
      by_cases same : other = index
      · subst same
        refine left.further (List.take_append_drop mark.size _).symm marginal ?_
        exact item.content
      · rw [others other same]
        exact left
    shallow := by
      intro other after before' outside deep'
      have nested := item.nested
      have indent := item.indent
      rw [level]
      show _ < (frame.dialect.depth : Int)
      by_cases same : other = index
      · subst same
        omega
      · rw [others other same] at deep' ⊢
        have own := shows.shallow other (Nat.le_trans from' after) before' outside (by omega)
        omega }

/-! ### Inside of a quote -/

/-- A row as it stands inside of a quote: what follows its mark, or, if it has none, a row that can
only go on with a paragraph. -/
def IsQuoted (frame : Frame) (row inner : Row) : Prop :=
  ((∃ behind, row.content = '>' :: behind) ∧ frame.isOutside row = false ∧ inner = row.unquote) ∨
    inner = row.lazy

/-- Rows of which those from one index up to another are replaced by what stands inside of a
quote. -/
structure AreQuoted (frame : Frame) (first last : Nat) (rows inner : Array Row) : Prop where
  reaches : first ≤ last
  size : inner.size = rows.size
  kept : ∀ index, index < first ∨ last ≤ index → inner[index]? = rows[index]?
  quoted : ∀ index, first ≤ index → index < last →
    ∃ row, inner[index]? = some row ∧ frame.IsQuoted (frame.row index) row

theorem AreQuoted.refl (frame : Frame) (first : Nat) (rows : Array Row) :
    frame.AreQuoted first first rows rows :=
  ⟨Nat.le_refl first, rfl, fun _ _ => rfl, fun _ from' before => absurd from' (by omega)⟩

theorem AreQuoted.cons {last : Nat} {rows inner : Array Row} {row : Row}
    (inside : first < rows.size) (own : frame.IsQuoted (frame.row first) row)
    (rest : frame.AreQuoted (first + 1) last (rows.setIfInBounds first row) inner) :
    frame.AreQuoted first last rows inner where
  reaches := Nat.le_of_succ_le rest.reaches
  size := rest.size.trans Array.size_setIfInBounds
  kept index away := by
    have behind := rest.reaches
    rw [rest.kept index (by omega), Array.getElem?_setIfInBounds_ne (by omega)]
  quoted index from' before := by
    rcases Nat.lt_or_eq_of_le from' with later | rfl
    · exact rest.quoted index later before
    · refine ⟨row, ?_, own⟩
      rw [rest.kept first (.inl (Nat.lt_succ_self first)),
        Array.getElem?_setIfInBounds_self_of_lt inside]

/-- A quote replaces its rows, and ends at the last index at the latest. -/
theorem areQuoted_quoteRows {fuel : Nat} {isOpen : Bool} {rows : Array Row}
    (fits : stop ≤ rows.size) (before : index ≤ stop) :
    frame.AreQuoted index (frame.quoteRows stop fuel index isOpen rows).2.1 rows
        (frame.quoteRows stop fuel index isOpen rows).1 ∧
      (frame.quoteRows stop fuel index isOpen rows).2.1 ≤ stop := by
  induction fuel generalizing index isOpen rows with
  | zero => exact ⟨.refl frame index rows, before⟩
  | succ fuel inductionHypothesis =>
    rw [quoteRows]
    dsimp only
    split
    · exact ⟨.refl frame index rows, before⟩
    · rename_i goesOn
      simp only [Bool.or_eq_true, decide_eq_true_eq, not_or, Nat.not_le] at goesOn
      have next (row : Row) (isOpen : Bool) :=
        @inductionHypothesis (index + 1) isOpen (rows.setIfInBounds index row)
          (by rw [Array.size_setIfInBounds]; exact fits) goesOn.1
      split
      · rename_i marked
        rw [Bool.and_eq_true, decide_eq_true_eq, Bool.not_eq_true'] at marked
        obtain ⟨rest, ends⟩ := next (frame.row index).unquote (!(frame.row index).unquote.isEmpty)
        refine ⟨.cons (by omega) (.inl ⟨?_, marked.2, rfl⟩) rest, ends⟩
        exact List.head?_eq_some_iff.mp marked.1
      · split
        · exact ⟨.refl frame index rows, before⟩
        · split
          · exact ⟨.refl frame index rows, before⟩
          · obtain ⟨rest, ends⟩ := next (frame.row index).lazy isOpen
            exact ⟨.cons (by omega) (.inr rfl) rest, ends⟩

/-- What is left of a line inside of a quote, and how deep it can be nested. -/
theorem IsQuoted.spec {row inner : Row} (quoted : frame.IsQuoted row inner)
    (left : row.IsLeftOf line) :
    inner.IsLeftOf line ∧ (0 ≤ inner.column → (frame.indent : Int) ≤ row.column ∧
      inner.column + nesting inner.content + 1 ≤ nesting row.content) := by
  rcases quoted with ⟨⟨behind, content⟩, within, rfl⟩ | rfl
  · obtain ⟨inner, -, nested⟩ := Row.unquote_spec content
    have deep : (frame.indent : Int) ≤ row.column := by
      rw [isOutside, decide_eq_false_iff_not] at within
      omega
    refine ⟨@Row.IsLeftOf.further line ['>'] behind _ _ left content (by decide) inner,
      fun _ => ⟨deep, ?_⟩⟩
    have mark : nesting ('>' :: behind) = 1 + nesting behind := rfl
    rw [content, mark]
    omega
  · exact ⟨left, fun inside => absurd inside (by simp [Row.lazy])⟩

/-- The frame inside of a quote shows the lines of the quote. -/
theorem Shows.quote {last : Nat} {inner : Frame} (shows : frame.Shows lines first stop)
    (from' : first ≤ index) (ends : last ≤ stop)
    (clear : ∀ between, index ≤ between → between ≤ last → openAt lines between = none)
    (quoted : frame.AreQuoted index last frame.rows inner.rows)
    (dialect : inner.dialect = frame.dialect)
    (limit : last ≤ inner.limit ∧ inner.limit ≤ frame.limit)
    (indent : inner.indent = 0) (level : inner.level = frame.level + 1) :
    inner.Shows lines index last := by
  have size := quoted.size
  have reach := shows.reach
  have free {other : Nat} (after : index ≤ other) (before : other < last) : IsFree lines other :=
    isFree_of_openAt (clear other after (by omega)) (clear (other + 1) (by omega) before) (by omega)
  have away {other : Nat} (outer : other < index ∨ last ≤ other) :
      inner.row other = frame.row other := by
    rw [row, row, quoted.kept other outer]
  have among {other : Nat} (after : index ≤ other) (before : other < last) :
      frame.IsQuoted (frame.row other) (inner.row other) := by
    obtain ⟨row, found, own⟩ := quoted.quoted other after before
    have same : inner.row other = row := by rw [Frame.row, found, Option.getD_some]
    exact same ▸ own
  exact {
    spoken := dialect ▸ shows.spoken
    set := dialect ▸ shows.set
    clean := shows.clean
    reach := ⟨limit.1, by omega, by omega⟩
    blank := by rw [size]; exact shows.blank
    ends := .inl (clear last quoted.reaches (Nat.le_refl last))
    kept := by
      intro other line found shown taken
      rw [size] at shown ⊢
      have outer : other < index ∨ last ≤ other := by
        refine Decidable.byContradiction fun inside => ?_
        simp only [not_or, Nat.not_lt, Nat.not_le] at inside
        exact taken (free inside.1 inside.2)
      rw [away outer]
      exact shows.kept other line found shown taken
    left := by
      intro other line found shown free'
      rw [size] at shown
      have left := shows.left other line found shown free'
      by_cases outer : other < index ∨ last ≤ other
      · rw [away outer]
        exact left
      · simp only [not_or, Nat.not_lt, Nat.not_le] at outer
        exact ((among outer.1 outer.2).spec left).1
    shallow := by
      intro other after before outside deep
      rw [indent] at deep ⊢
      rw [level, dialect]
      obtain ⟨line, found⟩ := @exists_line _ _ _ _ other shows (by omega)
      have left := shows.left other line found (by omega) (free after before)
      obtain ⟨own, nested⟩ := ((among after before).spec left).2 deep
      have bound := shows.shallow other (Nat.le_trans from' after) (by omega) outside own
      omega }

end GuidedMigration.Markdown.Frame

/-! ### Fenced code -/

namespace GuidedMigration.Markdown.Frame

open Text Guide

variable {lines : List Text} {frame : Frame} {first stop index place last : Nat} {line : Text}
  {opening : Fence}

/-! ### Slices of rows -/

theorem exists_of_mem_slice {row : Row} (member : row ∈ frame.slice first last) :
    ∃ index, first ≤ index ∧ index < last ∧ row = frame.row index := by
  obtain ⟨offset, within, rfl⟩ := List.mem_map.mp member
  rw [List.mem_range] at within
  exact ⟨first + offset, by omega, by omega, rfl⟩

/-- Rows that say what lines say, one after the other. -/
theorem flatMap_slice {ofRow : Row → Text} {ofLine : Text → Text} {count : Nat}
    (fits : first + count ≤ lines.length)
    (same : ∀ index line, first ≤ index → index < first + count → lines[index]? = some line →
      ofRow (frame.row index) = ofLine line) :
    (frame.slice first (first + count)).flatMap ofRow =
      ((lines.take (first + count)).drop first).flatMap ofLine := by
  induction count with
  | zero => simp [slice]
  | succ count inductionHypothesis =>
    have found := List.getElem?_eq_getElem (l := lines) (i := first + count) fits
    have longer : lines.take (first + (count + 1)) =
        lines.take (first + count) ++ [lines[first + count]] := by
      rw [← Nat.add_assoc, List.take_add_one, found]
      rfl
    have more : frame.slice first (first + (count + 1)) =
        frame.slice first (first + count) ++ [frame.row (first + count)] := by
      rw [slice, slice, Nat.add_sub_cancel_left, Nat.add_sub_cancel_left, List.range_succ,
        List.map_append]
      rfl
    rw [longer, more, List.drop_append_of_le_length (by rw [List.length_take]; omega),
      List.flatMap_append, List.flatMap_append,
      inductionHypothesis (by omega) fun index line from' before =>
        same index line from' (by omega),
      List.flatMap_singleton, List.flatMap_singleton,
      same (first + count) _ (by omega) (by omega) found]

theorem count_flatMap_le {ofRow : Row → Text} {rows : List Row}
    (single : ∀ row ∈ rows, (ofRow row).count '\n' ≤ 1) :
    (rows.flatMap ofRow).count '\n' ≤ rows.length := by
  induction rows with
  | nil => simp
  | cons row rows inductionHypothesis =>
    rw [List.flatMap_cons, List.count_append, List.length_cons]
    have own := single row List.mem_cons_self
    have rest := inductionHypothesis fun other member =>
      single other (List.mem_cons_of_mem row member)
    omega

/-! ### Rows of a region -/

namespace Shows

variable (shows : frame.Shows lines first stop)
include shows

/-- A line that does not begin or close a region while it is open is a row as it stands, and it is
filled. -/
theorem exists_row_of_region (region : IsRegion lines opening last) {between : Nat}
    (behind : opening.start < between) (within : between ≤ last)
    (inside : between < frame.rows.size) :
    ∃ line isClosed, lines[between]? = some line ∧ frame.row between = Row.ofLine line isClosed ∧
      (isClosed = true ∨ between + 1 = frame.rows.size ∧ line.all isSpaceOrTab = false) ∧
      (opening.isClosedBy line = false → opening.isWellFilled line = true) ∧
      (opening.isClosedBy line = true → opening.isWellClosed line = true) := by
  obtain ⟨line, found⟩ := shows.exists_line inside
  have opened := region.opened between behind within
  obtain ⟨isClosed, row, closed⟩ := shows.kept between line found inside fun free => by
    rw [free.1] at opened
    cases opened
  have filled (goesOn : (opening.upTo lines between).isClosedBy line = false) :
      (opening.upTo lines between).isWellFilled line = true :=
    shows.set.isWellFilled opened found goesOn
  have ends (closes : (opening.upTo lines between).isClosedBy line = true) :
      (opening.upTo lines between).isWellClosed line = true :=
    shows.set.isWellClosed ⟨opened, line, found, closes⟩ found
  exact ⟨line, isClosed, found, row, closed, filled, ends⟩

/-- A row of a region that has content is not outside of the block in which its fence stands. -/
theorem isOutside_of_region (marked : opening.mark = '\x60' ∨ opening.mark = '~')
    (several : 0 < opening.size) (deep : frame.indent ≤ opening.indent)
    (region : IsRegion lines opening place) (inside : place < frame.rows.size)
    (solid : (frame.row place).isEmpty = false) : frame.isOutside (frame.row place) = false := by
  obtain ⟨line, isClosed, -, row, -, filled, ends⟩ :=
    shows.exists_row_of_region region region.reaches (Nat.le_refl place) inside
  rw [row] at solid ⊢
  rw [isOutside, decide_eq_false_iff_not, Int.not_lt]
  refine Int.le_trans (Int.ofNat_le.mpr deep) ?_
  cases closes : opening.isClosedBy line with
  | true =>
    obtain ⟨-, column, -⟩ := @closesFence_of_isClosedBy frame line isClosed opening marked several
      closes (ends closes)
    exact column
  | false => exact column_of_isWellFilled (filled closes) solid

/-- A fence goes on at a row of its region. -/
theorem goesOn_of_region (marked : opening.mark = '\x60' ∨ opening.mark = '~')
    (several : 0 < opening.size) (deep : frame.indent ≤ opening.indent)
    (region : IsRegion lines opening place) (before : place < stop) :
    (decide (stop ≤ place) ||
      (!(frame.row place).isEmpty && frame.isOutside (frame.row place)) ||
      ((frame.row place).isEmpty && !(frame.row place).isClosed)) = false := by
  have inside := Nat.lt_of_lt_of_le before shows.stop_le
  rw [decide_eq_false (Nat.not_le.mpr before)]
  cases empty : (frame.row place).isEmpty with
  | false => simp [shows.isOutside_of_region marked several deep region inside empty]
  | true =>
    obtain ⟨line, isClosed, -, row, closed, -⟩ :=
      shows.exists_row_of_region region region.reaches (Nat.le_refl place) inside
    rw [row, Row.isEmpty_ofLine] at empty
    rcases closed with rfl | ⟨-, solid⟩
    · rw [row]
      rfl
    · exact absurd (solid.symm.trans empty) Bool.false_ne_true

/-- A fence ends at the line that closes its region, or with the last row. -/
theorem exists_fenceEnd {fuel : Nat} (marked : opening.mark = '\x60' ∨ opening.mark = '~')
    (several : 0 < opening.size) (deep : frame.indent ≤ opening.indent)
    (region : IsRegion lines opening place) (before : place ≤ stop)
    (enough : stop ≤ place + fuel) :
    ∃ last isClosed,
      frame.fenceEnd opening.mark opening.size stop fuel place = (last, isClosed) ∧
        IsRegion lines opening last ∧ last ≤ stop ∧
        if isClosed then last < stop ∧ Closes lines last (opening.upTo lines last)
        else last = stop := by
  induction fuel generalizing place with
  | zero => exact ⟨place, false, rfl, region, before, Nat.le_antisymm before enough⟩
  | succ fuel inductionHypothesis =>
    rw [fenceEnd]
    rcases Nat.lt_or_eq_of_le before with earlier | rfl
    · rw [shows.goesOn_of_region marked several deep region earlier, if_neg Bool.false_ne_true]
      obtain ⟨line, isClosed, found, row, -, -, ends⟩ :=
        shows.exists_row_of_region region region.reaches (Nat.le_refl place)
          (Nat.lt_of_lt_of_le earlier shows.stop_le)
      cases closes : opening.isClosedBy line with
      | true =>
        obtain ⟨closing, -⟩ := @closesFence_of_isClosedBy frame line isClosed opening marked several
          closes (ends closes)
        have closed : Closes lines place (opening.upTo lines place) :=
          ⟨region.opened place region.reaches (Nat.le_refl place), line, found, closes⟩
        rw [row, closing, if_pos rfl]
        exact ⟨place, true, rfl, region, before, by rw [if_pos rfl]; exact ⟨earlier, closed⟩⟩
      | false =>
        rw [row, closesFence_eq_false marked closes, if_neg Bool.false_ne_true]
        exact inductionHypothesis (region.succ found closes) earlier (by omega)
    · rw [decide_eq_true (Nat.le_refl place), Bool.true_or, Bool.true_or, if_pos rfl]
      exact ⟨place, false, rfl, region, before, rfl⟩

/-- A row inside of a region, seen from the column of its fence. -/
theorem exists_line_of_region (region : IsRegion lines opening last) {between : Nat}
    (behind : opening.start < between) (within : between < last)
    (inside : between < frame.rows.size) :
    ∃ line, lines[between]? = some line ∧
      (frame.row between).withoutIndent opening.indent = opening.cut line ∧
      (between + 1 < frame.rows.size → (frame.row between).isClosed = true) := by
  obtain ⟨line, isClosed, found, row, closed, filled, -⟩ :=
    shows.exists_row_of_region region behind (Nat.le_of_lt within) inside
  have own := filled (region.isClosedBy_eq_false behind within found)
  refine ⟨line, found, row ▸ withoutIndent_of_isWellFilled own, fun more => ?_⟩
  rcases closed with rfl | ⟨last', -⟩
  · rw [row]
    rfl
  · omega

/-- The rows up to the line that closes a region are what the region holds. -/
theorem joinClosed_of_closes (region : IsRegion lines opening last) (within : last < stop) :
    Row.joinClosed opening.indent (frame.slice (opening.start + 1) last) =
      ((opening.upTo lines last).block 0).content := by
  have size := shows.stop_le
  have reaches := region.reaches
  obtain ⟨count, rfl⟩ := Nat.exists_eq_add_of_le reaches
  have held : ((opening.upTo lines (opening.start + 1 + count)).block 0).content =
      ((lines.take (opening.start + 1 + count)).drop (opening.start + 1)).flatMap fun line =>
        opening.cut line ++ ['\n'] := by
    rw [Fence.block, Fence.upTo, List.reverse_reverse]
    rfl
  rw [held, Row.joinClosed]
  refine flatMap_slice (by have := shows.reach; omega) fun between line behind before found => ?_
  obtain ⟨other, found', cut, closed⟩ :=
    shows.exists_line_of_region region behind before (by omega)
  obtain rfl := Option.some.inj (found.symm.trans found')
  rw [cut, closed (by omega), if_pos rfl]

/-- The rows of a region have at most one newline each. -/
theorem count_joinClosed_le (region : IsRegion lines opening last) (within : last ≤ stop) :
    (Row.joinClosed opening.indent (frame.slice (opening.start + 1) last)).count '\n' ≤
      last - (opening.start + 1) := by
  have size := shows.stop_le
  have length : (frame.slice (opening.start + 1) last).length = last - (opening.start + 1) := by
    simp [slice]
  rw [Row.joinClosed, ← length]
  refine count_flatMap_le fun row member => ?_
  obtain ⟨between, behind, before, rfl⟩ := exists_of_mem_slice member
  obtain ⟨line, found, cut, -⟩ := shows.exists_line_of_region region behind before (by omega)
  have clean : (opening.cut line).count '\n' = 0 := List.count_eq_zero.mpr fun newline =>
    shows.clean line (List.mem_of_getElem? found) (List.mem_of_mem_drop newline)
  rw [cut, List.count_append, clean]
  split <;> simp

end Shows

end GuidedMigration.Markdown.Frame
