/-
This file knows a text by its solid rows: its lines, cut at any line break, without those that are
blank and without the blanks around them. By them a file is searched for a fragment. Whatever is
blank at the edges of a text or of one of its lines leaves them as they are, and at a newline they
fall into those before and those behind it.
-/
import GuidedMigration.Code.Insertion
import GuidedMigration.Proofs.Text.Rows

namespace GuidedMigration.Text

/-! ### Cutting at every line break -/

/-- The parts of a text between its line breaks. A carriage return and the newline behind it are two
breaks with nothing between them. -/
def breakRows : Text → List Text
  | [] => [[]]
  | char :: text =>
    if isLineBreak char then [] :: breakRows text
    else match breakRows text with
      | [] => [[char]]
      | row :: rows => (char :: row) :: rows

theorem breakRows_ne_nil (text : Text) : breakRows text ≠ [] := by
  cases text with
  | nil => simp [breakRows]
  | cons char text =>
    rw [breakRows]
    split
    · simp
    · split <;> simp

theorem breakRows_of_break {char : Char} (breaks : isLineBreak char = true) (text : Text) :
    breakRows (char :: text) = [] :: breakRows text := by
  rw [breakRows, if_pos breaks]

theorem breakRows_of_not_break {char : Char} (solid : isLineBreak char = false) (text : Text) :
    ∃ row rows, breakRows text = row :: rows ∧
      breakRows (char :: text) = (char :: row) :: rows := by
  obtain ⟨row, rows, split⟩ := List.exists_cons_of_ne_nil (breakRows_ne_nil text)
  refine ⟨row, rows, split, ?_⟩
  rw [breakRows, solid, if_neg Bool.false_ne_true, split]

/-- A text is cut at a line break whatever stands on either side of it. -/
theorem breakRows_append {char : Char} (breaks : isLineBreak char = true) (left right : Text) :
    breakRows (left ++ char :: right) = breakRows left ++ breakRows right := by
  induction left with
  | nil => simp [breakRows, breaks]
  | cons first left inductionHypothesis =>
    cases firstBreaks : isLineBreak first with
    | true =>
      rw [List.cons_append, breakRows_of_break firstBreaks, breakRows_of_break firstBreaks,
        inductionHypothesis, List.cons_append]
    | false =>
      obtain ⟨row, rows, split, split'⟩ := breakRows_of_not_break firstBreaks left
      obtain ⟨row', rows', joined, joined'⟩ :=
        breakRows_of_not_break firstBreaks (left ++ char :: right)
      rw [inductionHypothesis, split, List.cons_append] at joined
      obtain ⟨rfl, rfl⟩ := List.cons.inj joined
      rw [List.cons_append, joined', split', List.cons_append]

/-- A character that breaks no line goes to the last row. -/
theorem breakRows_concat {char : Char} (solid : isLineBreak char = false) (text : Text) :
    ∃ rows row, breakRows text = rows ++ [row] ∧
      breakRows (text ++ [char]) = rows ++ [row ++ [char]] := by
  induction text with
  | nil => exact ⟨[], [], by simp [breakRows], by simp [breakRows, solid]⟩
  | cons first text inductionHypothesis =>
    obtain ⟨rows, row, split, longer⟩ := inductionHypothesis
    cases firstBreaks : isLineBreak first with
    | true =>
      refine ⟨[] :: rows, row, ?_, ?_⟩
      · rw [breakRows_of_break firstBreaks, split, List.cons_append]
      · rw [List.cons_append, breakRows_of_break firstBreaks, longer, List.cons_append]
    | false =>
      cases rows with
      | nil =>
        rw [List.nil_append] at split longer
        exact ⟨[], first :: row, by simp [breakRows, firstBreaks, split],
          by simp [breakRows, firstBreaks, longer]⟩
      | cons head rows =>
        rw [List.cons_append] at split longer
        exact ⟨(first :: head) :: rows, row, by simp [breakRows, firstBreaks, split],
          by simp [breakRows, firstBreaks, longer]⟩

/-! ### Solid rows -/

/-- The rows that are not blank, without the blanks around them. -/
def solid (rows : List Text) : List Text := (rows.filter (!isBlankText ·)).map trim

/-- The lines of a text that are not blank, without the blanks around them. -/
def solidRows (text : Text) : List Text := solid (breakRows text)

theorem solid_append (left right : List Text) :
    solid (left ++ right) = solid left ++ solid right := by
  rw [solid, List.filter_append, List.map_append]
  rfl

theorem solid_nil_cons (rows : List Text) : solid ([] :: rows) = solid rows := rfl

/-- The first row can be read for another one that is as blank and the same without blanks. -/
theorem solid_cons_congr {row other : Text} (blank : isBlankText row = isBlankText other)
    (same : trim row = trim other) (rows : List Text) :
    solid (row :: rows) = solid (other :: rows) := by
  simp only [solid, List.filter_cons, blank]
  split
  · rw [List.map_cons, List.map_cons, same]
  · rfl

/-- Rows that start alike, and that have the same solid rows behind the first one. -/
theorem solid_congr {rows others : List Text} (head : rows.headD [] = others.headD [])
    (tail : solid rows.tail = solid others.tail) : solid rows = solid others := by
  have started (rows : List Text) : solid rows = solid [rows.headD []] ++ solid rows.tail := by
    cases rows with
    | nil => rfl
    | cons row rows => exact solid_append [row] rows
  rw [started rows, started others, head, tail]

/-- The lines of a text and its rows start alike, and behind their first ones they have the same
solid rows. -/
theorem lines_eq (text : Text) :
    (lines text).headD [] = (breakRows text).headD [] ∧
      solid (lines text).tail = solid (breakRows text).tail := by
  induction text using lines.induct with
  | case1 => exact ⟨rfl, rfl⟩
  | case2 text inductionHypothesis =>
    refine ⟨rfl, ?_⟩
    show solid (lines text) = solid ([] :: breakRows text)
    rw [solid_nil_cons]
    exact solid_congr inductionHypothesis.1 inductionHypothesis.2
  | case3 char text notPair breaks inductionHypothesis =>
    rw [lines, if_pos breaks, breakRows_of_break breaks]
    · exact ⟨rfl, solid_congr inductionHypothesis.1 inductionHypothesis.2⟩
    · exact notPair
  | case4 char text notPair solid' empty inductionHypothesis =>
    obtain ⟨row, rows, split, split'⟩ := breakRows_of_not_break (by simpa using solid') text
    rw [empty, split] at inductionHypothesis
    rw [lines, if_neg solid', empty, split']
    · exact ⟨congrArg (char :: ·) inductionHypothesis.1, inductionHypothesis.2⟩
    · exact notPair
  | case5 char text notPair solid' line rest cut inductionHypothesis =>
    obtain ⟨row, rows, split, split'⟩ := breakRows_of_not_break (by simpa using solid') text
    rw [cut, split] at inductionHypothesis
    rw [lines, if_neg solid', cut, split']
    · exact ⟨congrArg (char :: ·) inductionHypothesis.1, inductionHypothesis.2⟩
    · exact notPair

theorem solid_lines (text : Text) : solid (lines text) = solidRows text :=
  solid_congr (lines_eq text).1 (lines_eq text).2

/-! ### Blanks at the edges -/

theorem trim_cons_of_blank {char : Char} (blank : isBlank char = true) (text : Text) :
    trim (char :: text) = trim text :=
  @trim_append_left [char] (by simp [isBlankText, blank]) text

theorem solidRows_cons_of_blank {char : Char} (blank : isBlank char = true) (text : Text) :
    solidRows (char :: text) = solidRows text := by
  cases breaks : isLineBreak char with
  | true => rw [solidRows, breakRows_of_break breaks, solid_nil_cons, solidRows]
  | false =>
    obtain ⟨row, rows, split, split'⟩ := breakRows_of_not_break breaks text
    rw [solidRows, solidRows, split, split']
    refine solid_cons_congr ?_ (trim_cons_of_blank blank row) rows
    simp [isBlankText, blank]

theorem solidRows_append_left {blanks : Text} (blank : isBlankText blanks = true) (text : Text) :
    solidRows (blanks ++ text) = solidRows text := by
  induction blanks with
  | nil => rfl
  | cons char blanks inductionHypothesis =>
    rw [isBlankText, List.all_cons, Bool.and_eq_true] at blank
    rw [List.cons_append, solidRows_cons_of_blank blank.1, inductionHypothesis blank.2]

theorem solidRows_of_isBlankText {text : Text} (blank : isBlankText text = true) :
    solidRows text = [] := by
  rw [← List.append_nil text, solidRows_append_left blank]
  rfl

theorem solid_eq_nil {rows : List Text} (none' : solid rows = []) {row : Text}
    (member : row ∈ rows) :
    isBlankText row = true := by
  rw [solid, List.map_eq_nil_iff, List.filter_eq_nil_iff] at none'
  simpa using none' row member

/-- A text without solid rows is blank. -/
theorem isBlankText_of_solidRows {text : Text} (none' : solidRows text = []) :
    isBlankText text = true := by
  induction text with
  | nil => rfl
  | cons char text inductionHypothesis =>
    rw [isBlankText, List.all_cons, Bool.and_eq_true]
    cases breaks : isLineBreak char with
    | true =>
      rw [solidRows, breakRows_of_break breaks, solid_nil_cons] at none'
      exact ⟨isBlank_of_isLineBreak breaks, inductionHypothesis none'⟩
    | false =>
      obtain ⟨row, rows, split, split'⟩ := breakRows_of_not_break breaks text
      have blankRow := solid_eq_nil (none' : solid (breakRows (char :: text)) = [])
        (split' ▸ List.mem_cons_self)
      rw [isBlankText, List.all_cons, Bool.and_eq_true] at blankRow
      rw [solidRows_cons_of_blank blankRow.1] at none'
      exact ⟨blankRow.1, inductionHypothesis none'⟩

theorem trim_of_isBlankText {text : Text} (blank : isBlankText text = true) : trim text = [] := by
  rw [← List.append_nil text, trim_append_left blank]
  rfl

theorem trim_concat_of_blank {char : Char} (blank : isBlank char = true) (text : Text) :
    trim (text ++ [char]) = trim text := by
  have shorter (text : Text) :
      trimRightWhile isBlank (text ++ [char]) = trimRightWhile isBlank text := by
    rw [trimRightWhile, List.reverse_append, List.reverse_singleton, List.singleton_append,
      List.dropWhile_cons_of_pos blank, trimRightWhile]
  rw [trim, trim, trimWhile, trimWhile, trimLeftWhile, trimLeftWhile, List.dropWhile_append]
  cases left : text.dropWhile isBlank with
  | nil => simp [blank]
  | cons first rest => exact shorter (first :: rest)

theorem trim_append_right {blanks : Text} (blank : isBlankText blanks = true) (text : Text) :
    trim (text ++ blanks) = trim text := by
  induction blanks generalizing text with
  | nil => rw [List.append_nil]
  | cons char blanks inductionHypothesis =>
    rw [isBlankText, List.all_cons, Bool.and_eq_true] at blank
    rw [List.append_cons, inductionHypothesis blank.2, trim_concat_of_blank blank.1]

theorem solidRows_concat_of_blank {char : Char} (blank : isBlank char = true) (text : Text) :
    solidRows (text ++ [char]) = solidRows text := by
  cases breaks : isLineBreak char with
  | true =>
    rw [solidRows, breakRows_append breaks, solid_append, solidRows]
    exact List.append_nil _
  | false =>
    obtain ⟨rows, row, split, longer⟩ := breakRows_concat breaks text
    rw [solidRows, solidRows, split, longer, solid_append, solid_append]
    refine congrArg (solid rows ++ ·) (solid_cons_congr ?_ (trim_concat_of_blank blank row) [])
    rw [isBlankText_append]
    simp [isBlankText, blank]

theorem solidRows_append_right {blanks : Text} (blank : isBlankText blanks = true) (text : Text) :
    solidRows (text ++ blanks) = solidRows text := by
  induction blanks generalizing text with
  | nil => rw [List.append_nil]
  | cons char blanks inductionHypothesis =>
    rw [isBlankText, List.all_cons, Bool.and_eq_true] at blank
    rw [List.append_cons, inductionHypothesis blank.2, solidRows_concat_of_blank blank.1]

/-- What trimming takes away is at the two edges. -/
theorem exists_trimWhile (skip : Char → Bool) (text : Text) :
    ∃ left right : Text, left.all skip = true ∧ right.all skip = true ∧
      text = left ++ trimWhile skip text ++ right := by
  refine ⟨text.takeWhile skip,
    (((text.dropWhile skip).reverse.takeWhile skip).reverse), List.all_takeWhile, ?_, ?_⟩
  · rw [List.all_reverse]
    exact List.all_takeWhile
  · rw [trimWhile, trimRightWhile, trimLeftWhile, List.append_assoc, ← List.reverse_append,
      List.takeWhile_append_dropWhile, List.reverse_reverse, List.takeWhile_append_dropWhile]

theorem solidRows_trimWhile {skip : Char → Bool} (blank : ∀ char, skip char = true →
    isBlank char = true) (text : Text) : solidRows (trimWhile skip text) = solidRows text := by
  obtain ⟨left, right, leftSkipped, rightSkipped, cut⟩ := exists_trimWhile skip text
  have edge {part : Text} (skipped : part.all skip = true) : isBlankText part = true :=
    List.all_eq_true.mpr fun char member => blank char (List.all_eq_true.mp skipped char member)
  conv => rhs; rw [cut]
  rw [solidRows_append_right (edge rightSkipped), solidRows_append_left (edge leftSkipped)]

/-- A file is searched by solid rows. -/
theorem strippedRows_eq (text : Text) : Code.strippedRows text = solidRows text := by
  rw [← solidRows_trimWhile (fun _ => id) text, ← trim, ← solid_lines]
  rfl

theorem not_isLineBreak_of_mem_breakRows {text row : Text} (member : row ∈ breakRows text) :
    ∀ char ∈ row, isLineBreak char = false := by
  induction text generalizing row with
  | nil =>
    obtain rfl : row = [] := by simpa [breakRows] using member
    simp
  | cons first text inductionHypothesis =>
    cases breaks : isLineBreak first with
    | true =>
      rw [breakRows_of_break breaks] at member
      rcases List.mem_cons.mp member with rfl | behind
      · simp
      · exact inductionHypothesis behind
    | false =>
      obtain ⟨head, rows, split, longer⟩ := breakRows_of_not_break breaks text
      rw [longer] at member
      rw [split] at inductionHypothesis
      rcases List.mem_cons.mp member with rfl | behind
      · exact List.forall_mem_cons.mpr ⟨breaks, inductionHypothesis List.mem_cons_self⟩
      · exact inductionHypothesis (List.mem_cons_of_mem head behind)

/-- A solid row is not blank, and none of its characters breaks a line. -/
theorem solid_of_mem_solidRows {text row : Text} (member : row ∈ solidRows text) :
    isBlankText row = false ∧ ∀ char ∈ row, isLineBreak char = false := by
  obtain ⟨whole, among, rfl⟩ := List.mem_map.mp member
  obtain ⟨listed, solid'⟩ := List.mem_filter.mp among
  obtain ⟨left, right, leftBlank, rightBlank, cut⟩ := exists_trimWhile isBlank whole
  constructor
  · rw [Bool.not_eq_true', cut, isBlankText_append, isBlankText_append, isBlankText, leftBlank,
      Bool.true_and, ← trim, @isBlankText.eq_1 right, rightBlank, Bool.and_true] at solid'
    exact solid'
  · refine fun char inside => not_isLineBreak_of_mem_breakRows listed char ?_
    rw [cut]
    exact List.mem_append_left _ (List.mem_append_right _ inside)

/-- The characters of a text that are not blank are those of its solid rows. -/
theorem filter_solidRows {wanted : Char → Bool}
    (solid' : ∀ char, isBlank char = true → wanted char = false) (text : Text) :
    (solidRows text).flatten.filter wanted = text.filter wanted := by
  have silent {blanks : Text} (blank : isBlankText blanks = true) : blanks.filter wanted = [] :=
    List.filter_eq_nil_iff.mpr fun char member => by
      simp [solid' char (List.all_eq_true.mp blank char member)]
  have trimmed (row : Text) : (trim row).filter wanted = row.filter wanted := by
    obtain ⟨left, right, leftBlank, rightBlank, cut⟩ := exists_trimWhile isBlank row
    conv => rhs; rw [cut, List.filter_append, List.filter_append, silent leftBlank,
      silent rightBlank, List.nil_append, List.append_nil]
    rw [trim]
  have kept (rows : List Text) :
      (solid rows).flatten.filter wanted = rows.flatten.filter wanted := by
    induction rows with
    | nil => rfl
    | cons row rows inductionHypothesis =>
      rw [List.flatten_cons, List.filter_append, ← inductionHypothesis]
      cases blank : isBlankText row with
      | true =>
        rw [silent blank, List.nil_append]
        exact congrArg _ (congrArg _ (by simp [solid, blank]))
      | false =>
        have first : solid (row :: rows) = trim row :: solid rows := by simp [solid, blank]
        rw [first, List.flatten_cons, List.filter_append, trimmed]
  rw [solidRows, kept]
  induction text with
  | nil => rfl
  | cons char text inductionHypothesis =>
    cases breaks : isLineBreak char with
    | true =>
      rw [breakRows_of_break breaks, List.flatten_cons, List.nil_append, inductionHypothesis,
        List.filter_cons_of_neg (by simp [solid' char (isBlank_of_isLineBreak breaks)])]
    | false =>
      obtain ⟨row, rows, split, longer⟩ := breakRows_of_not_break breaks text
      rw [split] at inductionHypothesis
      rw [longer, List.flatten_cons, List.cons_append, ← List.flatten_cons, List.filter_cons,
        List.filter_cons, inductionHypothesis]

/-! ### Joined rows -/

theorem isLineBreak_newline : isLineBreak '\n' = true := by decide

/-- At a newline the solid rows of a text fall into those before and those behind it. -/
theorem solidRows_append (left right : Text) :
    solidRows (left ++ '\n' :: right) = solidRows left ++ solidRows right := by
  rw [solidRows, breakRows_append isLineBreak_newline, solid_append]
  rfl

theorem solidRows_joinLines (rows : List Text) :
    solidRows (joinLines rows) = rows.flatMap solidRows := by
  induction rows with
  | nil => rfl
  | cons row rows inductionHypothesis =>
    cases rows with
    | nil => simp [joinLines, joinWith]
    | cons next rows =>
      rw [joinLines_cons (by simp), solidRows_append, inductionHypothesis,
        @List.flatMap_cons _ _ row]

/-! ### Margins -/

theorem commonPrefix_prefix_left (left right : Text) : commonPrefix left right <+: left := by
  induction left generalizing right with
  | nil => simp [commonPrefix]
  | cons char left inductionHypothesis =>
    cases right with
    | nil => simp [commonPrefix]
    | cons other right =>
      rw [commonPrefix]
      split
      · exact List.cons_prefix_cons.mpr ⟨rfl, inductionHypothesis right⟩
      · exact List.nil_prefix

theorem commonPrefix_prefix_right (left right : Text) : commonPrefix left right <+: right := by
  induction left generalizing right with
  | nil => simp [commonPrefix]
  | cons char left inductionHypothesis =>
    cases right with
    | nil => simp [commonPrefix]
    | cons other right =>
      rw [commonPrefix]
      split
      · rename_i same
        exact List.cons_prefix_cons.mpr ⟨same, inductionHypothesis right⟩
      · exact List.nil_prefix

theorem foldl_commonPrefix_prefix {margins : List Text} {first margin : Text}
    (member : margin ∈ first :: margins) : margins.foldl commonPrefix first <+: margin := by
  induction margins generalizing first margin with
  | nil =>
    rw [List.mem_singleton] at member
    rw [member]
    exact List.prefix_rfl
  | cons next margins inductionHypothesis =>
    have shorter := @inductionHypothesis (commonPrefix first next) _ List.mem_cons_self
    rcases List.mem_cons.mp member with rfl | behind
    · exact shorter.trans (commonPrefix_prefix_left _ next)
    rcases List.mem_cons.mp behind with rfl | behind
    · exact shorter.trans (commonPrefix_prefix_right first _)
    · exact inductionHypothesis (List.mem_cons_of_mem _ behind)

theorem isBlank_of_isSpaceOrTab {char : Char} (space : isSpaceOrTab char = true) :
    isBlank char = true := by
  simp only [isSpaceOrTab, Bool.or_eq_true, decide_eq_true_eq] at space
  rcases space with rfl | rfl <;> decide

theorem isBlankText_of_all_isSpaceOrTab {text : Text} (spaces : text.all isSpaceOrTab = true) :
    isBlankText text = true :=
  List.all_eq_true.mpr fun char member =>
    isBlank_of_isSpaceOrTab (List.all_eq_true.mp spaces char member)

/-- Rows without their margin are the rows without some of the blanks in front of them. -/
theorem exists_dedentLines (rows : List Text) :
    ∃ bare : Text → Text, dedentLines rows = rows.map bare ∧
      ∀ row ∈ rows, ∃ blanks, isBlankText blanks = true ∧ row = blanks ++ bare row := by
  refine ⟨_, rfl, fun row member => ?_⟩
  split
  · rename_i spaces
    exact ⟨row, isBlankText_of_all_isSpaceOrTab spaces, (List.append_nil row).symm⟩
  · rename_i solid'
    split
    · exact ⟨[], rfl, rfl⟩
    · rename_i first rest margins
      have listed : row.takeWhile isSpaceOrTab ∈ first :: rest := by
        rw [← margins]
        exact List.mem_map.mpr ⟨row, List.mem_filter.mpr ⟨member, by simpa using solid'⟩, rfl⟩
      have margin := foldl_commonPrefix_prefix listed
      obtain ⟨behind, cut⟩ := margin.trans (List.takeWhile_prefix isSpaceOrTab)
      have spaces : (rest.foldl commonPrefix first).all isSpaceOrTab = true :=
        List.all_eq_true.mpr fun char among =>
          List.all_eq_true.mp List.all_takeWhile char (margin.subset among)
      refine ⟨_, isBlankText_of_all_isSpaceOrTab spaces, ?_⟩
      conv => rhs; rw [← cut, List.drop_left, cut]

/-- Taking the margin away from rows does not touch what is solid in them. -/
theorem map_dedentLines (rows : List Text) :
    (dedentLines rows).map solidRows = rows.map solidRows := by
  obtain ⟨bare, dedented, margins⟩ := exists_dedentLines rows
  rw [dedented, List.map_map]
  refine List.map_congr_left fun row member => ?_
  obtain ⟨blanks, blank, cut⟩ := margins row member
  rw [Function.comp_apply]
  conv => rhs; rw [cut, solidRows_append_left blank]

theorem not_mem_of_mem_dedentLines {rows : List Text} (clean : ∀ row ∈ rows, '\n' ∉ row)
    {row : Text} (member : row ∈ dedentLines rows) : '\n' ∉ row := by
  rw [dedentLines] at member
  obtain ⟨old, listed, rfl⟩ := List.mem_map.mp member
  split
  · simp
  · exact fun inside => clean old listed (List.mem_of_mem_drop inside)

theorem splitOn_dedent (text : Text) :
    splitOn '\n' (dedent text) = dedentLines (splitOn '\n' text) := by
  refine splitOn_joinLines ?_ fun row => not_mem_of_mem_dedentLines fun _ => not_mem_of_mem_splitOn
  rw [dedentLines]
  exact mt List.map_eq_nil_iff.mp (splitOn_ne_nil '\n' text)

/-- A fragment as it is written to a file has the solid rows that it has itself. -/
theorem flatMap_rendered {indent : Text} (blank : isBlankText indent = true) (fragment : Text) :
    (Code.rendered fragment indent).flatMap solidRows = solidRows fragment := by
  have unindented :
      (solidRows ∘ fun row => if isBlankText row then [] else indent ++ row) = solidRows := by
    funext row
    rw [Function.comp_apply]
    split
    · rename_i blankRow
      exact (solidRows_of_isBlankText blankRow).symm
    · exact solidRows_append_left blank row
  rw [Code.rendered, splitOn_dedent, List.flatMap_def, List.map_map, unindented, map_dedentLines,
    ← List.flatMap_def, ← solidRows_joinLines, joinLines_splitOn]
  refine solidRows_trimWhile (fun char newline => ?_) fragment
  rw [of_decide_eq_true newline]
  decide

end GuidedMigration.Text
