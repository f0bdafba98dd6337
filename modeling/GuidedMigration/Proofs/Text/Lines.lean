/-
This file cuts a text at every line break of Unicode. What stands behind a newline is cut as if
nothing stood before it, and no line holds a break. So rows that are closed by newlines give their
lines one after the other, and the lines of a text have the solid rows of the text. A text without
blanks at its edges is cut at two newlines behind it.
-/
import GuidedMigration.Proofs.Text.SolidRows

namespace GuidedMigration.Text

/-! ### Lines and newlines -/

theorem lines_cons_of_not_break {char : Char} (solid' : isLineBreak char = false) (text : Text) :
    lines (char :: text) = (char :: (lines text).headD []) :: (lines text).tail := by
  rw [lines]
  · rw [solid', if_neg Bool.false_ne_true]
    cases lines text <;> rfl
  · rintro rest rfl -
    exact absurd solid' (by decide)

theorem lines_cons_of_break {char : Char} (breaks : isLineBreak char = true) {text : Text}
    (single : char = '\r' → text.head? ≠ some '\n') : lines (char :: text) = [] :: lines text := by
  rw [lines]
  · rw [if_pos breaks]
  · rintro rest rfl rfl
    exact single rfl rfl

theorem lines_newline (text : Text) : lines ('\n' :: text) = [] :: lines text :=
  lines_cons_of_break isLineBreak_newline fun carriage => absurd carriage (by decide)

theorem lines_ne_nil {text : Text} (some' : text ≠ []) : lines text ≠ [] := by
  obtain ⟨char, rest, rfl⟩ := List.exists_cons_of_ne_nil some'
  cases breaks : isLineBreak char with
  | false => simp [lines_cons_of_not_break breaks]
  | true =>
    unfold lines
    split <;> simp_all

/-- What stands behind a line break is cut by itself. -/
theorem lines_append_break {mark : Char} (breaks : isLineBreak mark = true) {right : Text}
    (single : mark = '\r' → right.head? ≠ some '\n') (left : Text) :
    lines (left ++ mark :: right) = lines (left ++ [mark]) ++ lines right := by
  have atBreak : lines (mark :: right) = [] :: lines right ∧ lines [mark] = [[]] :=
    ⟨lines_cons_of_break breaks single, lines_cons_of_break breaks fun _ => nofun⟩
  induction left using lines.induct with
  | case1 => rw [List.nil_append, List.nil_append, atBreak.1, atBreak.2, List.singleton_append]
  | case2 text inductionHypothesis => simpa [lines] using inductionHypothesis
  | case3 char text notPair breaks inductionHypothesis =>
    cases text with
    | nil =>
      by_cases pair : char = '\r' ∧ mark = '\n'
      · obtain ⟨rfl, rfl⟩ := pair
        rfl
      · have apart {rest : Text} : char = '\r' → (mark :: rest : Text).head? ≠ some '\n' :=
          fun carriage newline => pair ⟨carriage, Option.some.inj newline⟩
        simp only [List.cons_append, List.nil_append]
        rw [lines_cons_of_break breaks apart, lines_cons_of_break breaks apart, atBreak.1,
          atBreak.2]
        rfl
    | cons next text =>
      have apart {rest : Text} : char = '\r' → (next :: rest).head? ≠ some '\n' := by
        intro carriage newline
        exact notPair text carriage (by rw [Option.some.inj newline])
      rw [List.cons_append, List.cons_append] at inductionHypothesis
      simp only [List.cons_append]
      rw [lines_cons_of_break breaks apart, inductionHypothesis,
        lines_cons_of_break breaks apart]
      rfl
  | case4 char text notPair solid' empty inductionHypothesis =>
    have more : lines (text ++ [mark]) ≠ [] := lines_ne_nil (by simp)
    rw [List.cons_append, lines_cons_of_not_break (by simpa using solid'), inductionHypothesis,
      List.cons_append, lines_cons_of_not_break (by simpa using solid')]
    cases cut : lines (text ++ [mark]) with
    | nil => exact absurd cut more
    | cons line rest => rfl
  | case5 char text notPair solid' line rest cut inductionHypothesis =>
    have more : lines (text ++ [mark]) ≠ [] := lines_ne_nil (by simp)
    rw [List.cons_append, lines_cons_of_not_break (by simpa using solid'), inductionHypothesis,
      List.cons_append, lines_cons_of_not_break (by simpa using solid')]
    cases cut : lines (text ++ [mark]) with
    | nil => exact absurd cut more
    | cons line rest => rfl

theorem lines_append_newline (left right : Text) :
    lines (left ++ '\n' :: right) = lines (left ++ ['\n']) ++ lines right :=
  lines_append_break isLineBreak_newline (fun carriage => absurd carriage (by decide)) left

/-- A newline at the end adds no line but perhaps an empty one. -/
theorem exists_lines_concat_newline (text : Text) :
    ∃ extra, lines (text ++ ['\n']) = lines text ++ extra ∧ ∀ row ∈ extra, row = [] := by
  induction text using lines.induct with
  | case1 => exact ⟨[[]], rfl, by simp⟩
  | case2 text inductionHypothesis =>
    obtain ⟨extra, longer, empty⟩ := inductionHypothesis
    exact ⟨extra, by simpa [lines] using longer, empty⟩
  | case3 char text notPair breaks inductionHypothesis =>
    obtain ⟨extra, longer, empty⟩ := inductionHypothesis
    cases text with
    | nil =>
      by_cases carriage : char = '\r'
      · exact ⟨[], by rw [carriage]; rfl, by simp⟩
      · have single {rest : Text} : char = '\r' → rest.head? ≠ some '\n' :=
          fun same => absurd same carriage
        refine ⟨[[]], ?_, by simp⟩
        rw [List.cons_append, List.nil_append, lines_cons_of_break breaks single,
          lines_cons_of_break breaks single]
        rfl
    | cons next text =>
      have single {rest : Text} : char = '\r' → (next :: rest).head? ≠ some '\n' := by
        intro carriage newline
        exact notPair text carriage (by rw [Option.some.inj newline])
      refine ⟨extra, ?_, empty⟩
      rw [List.cons_append] at longer
      rw [List.cons_append, List.cons_append, lines_cons_of_break breaks single, longer,
        lines_cons_of_break breaks single]
      rfl
  | case4 char text notPair solid' none' inductionHypothesis =>
    obtain rfl : text = [] := Decidable.byContradiction fun some' => lines_ne_nil some' none'
    refine ⟨[], ?_, by simp⟩
    rw [List.cons_append, lines_cons_of_not_break (by simpa using solid'),
      lines_cons_of_not_break (by simpa using solid')]
    rfl
  | case5 char text notPair solid' line rest cut inductionHypothesis =>
    obtain ⟨extra, longer, empty⟩ := inductionHypothesis
    refine ⟨extra, ?_, empty⟩
    rw [List.cons_append, lines_cons_of_not_break (by simpa using solid'), longer,
      lines_cons_of_not_break (by simpa using solid'), cut]
    rfl

/-- A character that breaks no line goes to the last line, which a newline behind it closes. -/
theorem exists_lines_concat {char : Char} (solid' : isLineBreak char = false) (text : Text) :
    ∃ rows row, lines (text ++ [char]) = rows ++ [row ++ [char]] ∧
      lines (text ++ [char, '\n']) = rows ++ [row ++ [char]] := by
  have longer {first : Char} {text : Text} (solid' : ¬ isLineBreak first = true)
      (found : ∃ rows row, lines (text ++ [char]) = rows ++ [row ++ [char]] ∧
        lines (text ++ [char, '\n']) = rows ++ [row ++ [char]]) :
      ∃ rows row, lines (first :: text ++ [char]) = rows ++ [row ++ [char]] ∧
        lines (first :: text ++ [char, '\n']) = rows ++ [row ++ [char]] := by
    obtain ⟨rows, row, plain, closed'⟩ := found
    rw [List.cons_append, List.cons_append, lines_cons_of_not_break (by simpa using solid'),
      lines_cons_of_not_break (by simpa using solid'), plain, closed']
    cases rows with
    | nil => exact ⟨[], first :: row, rfl, rfl⟩
    | cons head rows => exact ⟨(first :: head) :: rows, row, rfl, rfl⟩
  induction text using lines.induct with
  | case1 =>
    refine ⟨[], [], ?_, ?_⟩
    · rw [List.nil_append, lines_cons_of_not_break solid']
      rfl
    · rw [List.nil_append, lines_cons_of_not_break solid']
      rfl
  | case2 text inductionHypothesis =>
    obtain ⟨rows, row, plain, closed'⟩ := inductionHypothesis
    exact ⟨[] :: rows, row, by simpa [lines] using plain, by simpa [lines] using closed'⟩
  | case3 first text notPair breaks inductionHypothesis =>
    obtain ⟨rows, row, plain, closed'⟩ := inductionHypothesis
    have single {behind : Text} : first = '\r' → (text ++ char :: behind).head? ≠ some '\n' := by
      intro carriage newline
      cases text with
      | nil =>
        obtain rfl : char = '\n' := by simpa using newline
        exact Bool.false_ne_true (solid'.symm.trans isLineBreak_newline)
      | cons next text => exact notPair text carriage (by simpa using newline)
    refine ⟨[] :: rows, row, ?_, ?_⟩
    · rw [List.cons_append, lines_cons_of_break breaks single, plain, List.cons_append]
    · rw [List.cons_append, lines_cons_of_break breaks single, closed', List.cons_append]
  | case4 first text _ solid' _ inductionHypothesis => exact longer solid' inductionHypothesis
  | case5 first text _ solid' _ _ _ inductionHypothesis => exact longer solid' inductionHypothesis
/-! ### The rows of lines -/

theorem not_isLineBreak_of_mem_lines {text row : Text} (member : row ∈ lines text) :
    ∀ char ∈ row, isLineBreak char = false := by
  induction text using lines.induct generalizing row with
  | case1 => simp [lines] at member
  | case2 text inductionHypothesis =>
    rw [lines] at member
    rcases List.mem_cons.mp member with rfl | later
    · simp
    · exact inductionHypothesis later
  | case3 char text notPair breaks inductionHypothesis =>
    rw [lines, if_pos breaks] at member
    · rcases List.mem_cons.mp member with rfl | later
      · simp
      · exact inductionHypothesis later
    · exact notPair
  | case4 char text notPair solid' none' inductionHypothesis =>
    rw [lines_cons_of_not_break (by simpa using solid'), none'] at member
    obtain rfl : row = [char] := by simpa using member
    simpa using solid'
  | case5 char text notPair solid' line rest cut inductionHypothesis =>
    rw [lines_cons_of_not_break (by simpa using solid'), cut] at member
    rw [cut] at inductionHypothesis
    rcases List.mem_cons.mp member with rfl | later
    · intro other among
      rcases List.mem_cons.mp among with rfl | inside
      · simpa using solid'
      · exact inductionHypothesis List.mem_cons_self other inside
    · exact inductionHypothesis (List.mem_cons_of_mem _ later)

theorem breakRows_of_not_mem {text : Text} (solid' : ∀ char ∈ text, isLineBreak char = false) :
    breakRows text = [text] := by
  induction text with
  | nil => rfl
  | cons char text inductionHypothesis =>
    rw [breakRows, solid' char List.mem_cons_self, if_neg Bool.false_ne_true,
      inductionHypothesis fun other member => solid' other (List.mem_cons_of_mem _ member)]

/-- The solid rows of a text are those of its lines. -/
theorem flatMap_lines (text : Text) : (lines text).flatMap solidRows = solidRows text := by
  rw [← solid_lines text, solid, List.flatMap_def]
  have own : (lines text).map solidRows = (lines text).map fun row => solid [row] :=
    List.map_congr_left fun row member => by
      rw [solidRows, breakRows_of_not_mem (not_isLineBreak_of_mem_lines member)]
  rw [own]
  induction lines text with
  | nil => rfl
  | cons row rows inductionHypothesis =>
    rw [List.map_cons, List.flatten_cons, inductionHypothesis, ← solid, ← solid, ← solid_append,
      List.singleton_append]

/-! ### Rows closed by newlines -/

/-- Rows as a text in which each of them is closed by a newline. -/
def closed (rows : List Text) : Text := rows.flatMap (· ++ ['\n'])

theorem closed_append (left right : List Text) :
    closed (left ++ right) = closed left ++ closed right :=
  List.flatMap_append

theorem joinLines_concat_newline {rows : List Text} (some' : rows ≠ []) :
    joinLines rows ++ ['\n'] = closed rows := by
  induction rows with
  | nil => exact absurd rfl some'
  | cons row rows inductionHypothesis =>
    cases rows with
    | nil => simp [joinLines, joinWith, closed]
    | cons next rows =>
      rw [joinLines_cons (by simp), List.append_assoc, List.cons_append,
        inductionHypothesis (by simp)]
      simp [closed]

theorem joinLines_append {below : List Text} (some' : below ≠ []) (above : List Text) :
    joinLines (above ++ below) = closed above ++ joinLines below := by
  induction above with
  | nil => rfl
  | cons row above inductionHypothesis =>
    rw [List.cons_append, joinLines_cons (by simp [some']), inductionHypothesis, closed, closed,
      List.flatMap_cons]
    simp

theorem splitOn_closed_append {rows : List Text} (clean : ∀ row ∈ rows, '\n' ∉ row) (text : Text) :
    splitOn '\n' (closed rows ++ text) = rows ++ splitOn '\n' text := by
  have joined := joinLines_append (splitOn_ne_nil '\n' text) rows
  rw [joinLines_splitOn] at joined
  rw [← joined, splitOn_joinLines (by simp [splitOn_ne_nil]) fun row member => ?_]
  exact (List.mem_append.mp member).elim (clean row) not_mem_of_mem_splitOn

theorem count_closed {rows : List Text} (clean : ∀ row ∈ rows, '\n' ∉ row) :
    (closed rows).count '\n' = rows.length := by
  have size := length_splitOn '\n' (closed rows ++ [])
  rw [splitOn_closed_append clean, List.length_append, List.append_nil] at size
  exact (Nat.add_right_cancel size).symm

/-- Every text is made of closed rows and a last one. -/
theorem exists_closed (text : Text) :
    ∃ rows last, (∀ row ∈ rows, '\n' ∉ row) ∧ '\n' ∉ last ∧ text = closed rows ++ last := by
  obtain ⟨rows, last, split⟩ :=
    (List.eq_nil_or_concat (splitOn '\n' text)).resolve_left (splitOn_ne_nil '\n' text)
  rw [List.concat_eq_append] at split
  have clean (row : Text) (member : row ∈ rows ++ [last]) : '\n' ∉ row :=
    not_mem_of_mem_splitOn (split ▸ member)
  refine ⟨rows, last, fun row member => clean row (List.mem_append_left _ member),
    clean last (by simp), ?_⟩
  rw [← joinLines_splitOn text, split, joinLines_append (by simp)]
  rfl

/-- The lines of closed rows do not depend on what stands behind them. -/
theorem lines_closed_append (rows : List Text) (behind : Text) :
    lines (closed rows ++ behind) = lines (closed rows) ++ lines behind := by
  rcases List.eq_nil_or_concat rows with rfl | ⟨rows, row, rfl⟩
  · rfl
  · have last : closed (rows.concat row) = closed rows ++ row ++ ['\n'] := by
      rw [List.concat_eq_append, closed_append]
      simp [closed]
    rw [last, List.append_assoc _ ['\n'], List.singleton_append, lines_append_newline]

theorem solidRows_closed (rows : List Text) :
    solidRows (closed rows) = rows.flatMap solidRows := by
  by_cases some' : rows = []
  · rw [some']
    rfl
  · rw [← joinLines_concat_newline some', solidRows_append_right (by decide),
      solidRows_joinLines]

theorem infix_joinLines {rows wider : List Text} (among : rows <:+: wider) :
    joinLines rows <:+: joinLines wider := by
  obtain ⟨above, below, rfl⟩ := among
  by_cases some' : rows = []
  · rw [some']
    exact List.nil_infix
  · rw [List.append_assoc, joinLines_append (by simp [some'])]
    refine List.IsInfix.trans ?_ (List.suffix_append _ _).isInfix
    by_cases more : below = []
    · simp only [more, List.append_nil, List.infix_rfl]
    · rw [joinLines_append more, ← joinLines_concat_newline some', List.append_assoc]
      exact (List.prefix_append _ _).isInfix

/-! ### Texts without blanks around them -/

variable {text : Text}

/-- Whether a text has no blanks at its edges. -/
structure IsTrimmed (text : Text) : Prop where
  begins : text.head?.any (!isBlank ·) = true
  ends : text.getLast?.any (!isBlank ·) = true

instance (text : Text) : Decidable (IsTrimmed text) :=
  decidable_of_iff (text.head?.any (!isBlank ·) = true ∧ text.getLast?.any (!isBlank ·) = true)
    ⟨fun ⟨begins, ends⟩ => ⟨begins, ends⟩, fun ⟨begins, ends⟩ => ⟨begins, ends⟩⟩

theorem IsTrimmed.trim_eq (trimmed : IsTrimmed text) : trim text = text := by
  have dropped {text : Text} (begins : text.head?.any (!isBlank ·) = true) :
      text.dropWhile isBlank = text := by
    cases text with
    | nil => rfl
    | cons char text => exact List.dropWhile_cons_of_neg (by simpa using begins)
  rw [trim, trimWhile, trimRightWhile, trimLeftWhile, dropped trimmed.begins,
    dropped (by rw [List.head?_reverse]; exact trimmed.ends), List.reverse_reverse]

theorem isTrimmed_trim (some' : trim text ≠ []) : IsTrimmed (trim text) := by
  have solid' {text : Text} (some' : text.dropWhile isBlank ≠ []) :
      (text.dropWhile isBlank).head?.any (!isBlank ·) = true := by
    have first := List.head?_dropWhile_not isBlank text
    obtain ⟨char, rest, cut⟩ := List.exists_cons_of_ne_nil some'
    rw [cut] at first ⊢
    simpa using first
  rw [trim, trimWhile, trimRightWhile, trimLeftWhile, Ne, List.reverse_eq_nil_iff] at some'
  constructor
  · obtain ⟨blanks, cut⟩ := List.dropWhile_suffix isBlank (l := (text.dropWhile isBlank).reverse)
    have whole := congrArg List.reverse cut
    rw [List.reverse_append, List.reverse_reverse] at whole
    have begins := @solid' text (fun none' => some' (by rw [none']; rfl))
    obtain ⟨char, rest, kept⟩ := List.exists_cons_of_ne_nil (mt List.reverse_eq_nil_iff.mp some')
    rw [trim, trimWhile, trimRightWhile, trimLeftWhile]
    rw [← whole, kept] at begins
    rw [kept]
    exact begins
  · rw [trim, trimWhile, trimRightWhile, trimLeftWhile, List.getLast?_reverse]
    exact solid' some'

theorem not_isBlankText_of_ends (ends : text.getLast?.any (!isBlank ·) = true) :
    isBlankText text = false := by
  rcases List.eq_nil_or_concat text with rfl | ⟨text, char, rfl⟩
  · exact absurd ends Bool.false_ne_true
  · rw [List.concat_eq_append, List.getLast?_concat, Option.any_some, Bool.not_eq_true'] at ends
    rw [List.concat_eq_append, isBlankText_append, isBlankText, isBlankText, List.all_cons, ends,
      Bool.false_and, Bool.and_false]

theorem isLineBreak_of_not_isBlank {char : Char} (solid' : (!isBlank char) = true) :
    isLineBreak char = false :=
  Bool.eq_false_iff.mpr fun breaks => by simp [isBlank_of_isLineBreak breaks] at solid'

theorem IsTrimmed.head?_lines (trimmed : IsTrimmed text) :
    (lines text).head?.any (!isBlankText ·) = true := by
  obtain ⟨begins, -⟩ := trimmed
  cases text with
  | nil => exact absurd begins Bool.false_ne_true
  | cons char text =>
    rw [List.head?_cons, Option.any_some] at begins
    rw [lines_cons_of_not_break (isLineBreak_of_not_isBlank begins), List.head?_cons,
      Option.any_some, isBlankText, List.all_cons, Bool.not_and, begins, Bool.true_or]

/-- The last line of a text without blanks at its end is not blank, and a newline closes it. -/
theorem IsTrimmed.exists_lines (trimmed : IsTrimmed text) :
    ∃ rows last, lines text = rows ++ [last] ∧ lines (text ++ ['\n']) = rows ++ [last] ∧
      last.getLast?.any (!isBlank ·) = true := by
  obtain ⟨-, ends⟩ := trimmed
  rcases List.eq_nil_or_concat text with rfl | ⟨text, char, rfl⟩
  · exact absurd ends Bool.false_ne_true
  rw [List.concat_eq_append, List.getLast?_concat, Option.any_some] at ends
  obtain ⟨rows, row, plain, closed'⟩ := exists_lines_concat (isLineBreak_of_not_isBlank ends) text
  rw [List.concat_eq_append, List.append_assoc]
  exact ⟨rows, row ++ [char], plain, closed', by rwa [List.getLast?_concat, Option.any_some]⟩

/-- A text without blanks at its edges is cut into lines whatever stands two newlines behind it. -/
theorem IsTrimmed.lines_append (trimmed : IsTrimmed text) (behind : Text) :
    lines (text ++ '\n' :: '\n' :: behind) = lines text ++ [] :: lines behind := by
  obtain ⟨rows, last, plain, closed', -⟩ := trimmed.exists_lines
  rw [lines_append_newline, lines_newline, plain, closed']

/-- The lines of a text without blanks at its edges, joined again, have no blanks there either. -/
theorem IsTrimmed.rejoined (trimmed : IsTrimmed text) : IsTrimmed (joinLines (lines text)) := by
  constructor
  · obtain ⟨begins, -⟩ := trimmed
    cases text with
    | nil => exact absurd begins Bool.false_ne_true
    | cons char text =>
      rw [List.head?_cons, Option.any_some] at begins
      rw [lines_cons_of_not_break (isLineBreak_of_not_isBlank begins)]
      cases (lines text).tail with
      | nil => exact begins
      | cons next rows =>
        rw [joinLines_cons (by simp)]
        exact begins
  · obtain ⟨rows, last, plain, -, ends⟩ := trimmed.exists_lines
    cases isLast : last.getLast? with
    | none =>
      rw [isLast] at ends
      exact absurd ends Bool.false_ne_true
    | some char =>
      have whole : joinLines (rows ++ [last]) = closed rows ++ last := joinLines_append (by simp) _
      rwa [plain, whole, List.getLast?_append, isLast, Option.some_or, ← isLast]

theorem IsTrimmed.lines_ne_nil (trimmed : IsTrimmed text) : lines text ≠ [] := by
  intro none'
  have begins := trimmed.head?_lines
  rw [none'] at begins
  exact Bool.false_ne_true begins

theorem solidRows_ne_nil (solid' : text.head?.any (!isBlank ·) = true ∨
    text.getLast?.any (!isBlank ·) = true) : solidRows text ≠ [] := by
  intro none'
  have blank := List.all_eq_true.mp (isBlankText_of_solidRows none')
  rcases solid' with solid' | solid'
  · obtain ⟨char, first, solid'⟩ := (Option.any_eq_true _ _).mp solid'
    simp [blank char (List.mem_of_head? first)] at solid'
  · obtain ⟨char, last, solid'⟩ := (Option.any_eq_true _ _).mp solid'
    simp [blank char (List.mem_of_getLast? last)] at solid'

theorem IsTrimmed.edges {upper lower : Text} (trimmed : IsTrimmed (upper ++ '\n' :: lower)) :
    upper.head?.any (!isBlank ·) = true ∧ lower.getLast?.any (!isBlank ·) = true := by
  obtain ⟨begins, ends⟩ := trimmed
  constructor
  · cases upper with
    | nil => exact absurd (show (!isBlank '\n') = true from begins) (by decide)
    | cons char upper => exact begins
  · rcases List.eq_nil_or_concat lower with rfl | ⟨lower, char, rfl⟩
    · rw [List.getLast?_concat] at ends
      exact absurd (show (!isBlank '\n') = true from ends) (by decide)
    · rw [List.concat_eq_append] at ends ⊢
      rw [← List.cons_append, ← List.append_assoc, List.getLast?_concat] at ends
      rw [List.getLast?_concat]
      exact ends

/-- A part of joined rows that has no blanks at its edges is a part of the upper ones or of the
lower ones, or it is cut at the newline between them. -/
theorem infix_joinLines_append {part : Text} (trimmed : IsTrimmed part) {above below : List Text}
    (some' : above ≠ []) (more : below ≠ []) (among : part <:+: joinLines (above ++ below)) :
    part <:+: joinLines above ∨ part <:+: joinLines below ∨
      ∃ upper lower, part = upper ++ '\n' :: lower ∧ upper <:+ joinLines above := by
  have whole : joinLines (above ++ below) = joinLines above ++ '\n' :: joinLines below := by
    rw [joinLines_append more, ← joinLines_concat_newline some', List.append_assoc]
    rfl
  have begins := trimmed.begins
  rw [whole, List.infix_append_iff_ne_nil] at among
  rcases among with left | right | ⟨upper, lower, -, notNil, cut, suffix, start⟩
  · exact .inl left
  · rcases List.infix_cons_iff.mp right with start | right
    · rcases List.prefix_cons_iff.mp start with rfl | ⟨rest, rfl, -⟩
      · exact .inl List.nil_infix
      · rw [List.head?_cons] at begins
        exact absurd begins (by decide)
    · exact .inr (.inl right)
  · rcases List.prefix_cons_iff.mp start with rfl | ⟨rest, rfl, -⟩
    · exact absurd rfl notNil
    · exact .inr (.inr ⟨upper, rest, cut, suffix⟩)

end GuidedMigration.Text
