/-
This file says what becomes of a row in the middle of a text when the text loses its margin and is
cut into lines. The margin depends on how far the rows are indented and on nothing else in them, so
that a row which gets longer at its end, or gets another row of its own indentation in front of it,
leaves all other lines as they are.
-/
import GuidedMigration.Proofs.Text.Lines
import GuidedMigration.Proofs.Text.Scan

namespace GuidedMigration.Text

variable {char mark : Char} {text row rest before after : Text} {rows above below : List Text}

/-! ### Cutting behind the start of a row -/

/-- A text without a mark lengthens the first part of what stands behind it. -/
theorem splitOn_clean_append (clean : mark ∉ text) (rest : Text) :
    splitOn mark (text ++ rest) =
      (text ++ (splitOn mark rest).headD []) :: (splitOn mark rest).tail := by
  obtain ⟨part, parts, cut⟩ := List.exists_cons_of_ne_nil (splitOn_ne_nil mark rest)
  rw [cut, List.headD_cons, List.tail_cons]
  induction text with
  | nil => exact cut
  | cons char text inductionHypothesis =>
    rw [List.mem_cons, not_or] at clean
    rw [List.cons_append, splitOn, if_neg (Ne.symm clean.1), inductionHypothesis clean.2]
    rfl

theorem joinLines_cons_append (text row : Text) (rows : List Text) :
    joinLines ((text ++ row) :: rows) = text ++ joinLines (row :: rows) := by
  cases rows with
  | nil => rfl
  | cons next rows =>
    rw [joinLines_cons (List.cons_ne_nil _ _), joinLines_cons (List.cons_ne_nil _ _),
      List.append_assoc]

/-! ### The margin of rows -/

/-- Whether a row has a character besides spaces and tabs. -/
def isInked (row : Text) : Bool := !row.all isSpaceOrTab

/-- The spaces and tabs in front of a row. -/
def tabbing (row : Text) : Text := row.takeWhile isSpaceOrTab

theorem tabbing_append (inked : isInked row = true) (rest : Text) :
    tabbing (row ++ rest) = tabbing row :=
  takeWhile_append_of_all (fun _ space => space) ((Bool.not_eq_true' _).mp inked) rest

theorem length_tabbing_le (row : Text) : (tabbing row).length ≤ row.length :=
  (List.takeWhile_prefix isSpaceOrTab).length_le

theorem length_tabbing_lt (inked : isInked row = true) : (tabbing row).length < row.length := by
  refine Nat.lt_of_le_of_ne (length_tabbing_le row) fun same => ?_
  have whole : tabbing row = row := (List.takeWhile_prefix isSpaceOrTab).eq_of_length same
  rw [isInked, ← whole, tabbing, List.all_takeWhile] at inked
  cases inked

theorem isInked_append (left right : Text) :
    isInked (left ++ right) = (isInked left || isInked right) := by
  rw [isInked, List.all_append, Bool.not_and]
  rfl

/-- What the margins of rows have in common. -/
def shared : List Text → Text
  | [] => []
  | first :: rest => rest.foldl commonPrefix first

/-- The margins of the rows that have one. -/
def margins (rows : List Text) : List Text := (rows.filter isInked).map tabbing

/-- A row without as many characters as the margin has. -/
def withoutMargin (size : Nat) (row : Text) : Text :=
  if row.all isSpaceOrTab then [] else row.drop size

theorem dedentLines_eq (rows : List Text) :
    dedentLines rows = rows.map (withoutMargin (shared (margins rows)).length) := rfl

theorem withoutMargin_of_isInked (inked : isInked row = true) (size : Nat) :
    withoutMargin size row = row.drop size := by
  rw [withoutMargin, if_neg (by simpa [isInked] using inked)]

theorem margins_append (left right : List Text) :
    margins (left ++ right) = margins left ++ margins right := by
  rw [margins, List.filter_append, List.map_append]
  rfl

theorem margins_cons (inked : isInked row = true) (rows : List Text) :
    margins (row :: rows) = tabbing row :: margins rows := by
  rw [margins, List.filter_cons_of_pos inked]
  rfl

theorem commonPrefix_of_prefix {left right : Text} (starts : left <+: right) :
    commonPrefix left right = left := by
  obtain ⟨more, rfl⟩ := starts
  induction left with
  | nil => cases more <;> rfl
  | cons char left inductionHypothesis =>
    rw [List.cons_append, commonPrefix, if_pos rfl, inductionHypothesis]

/-- A margin that is there twice is shared as if it were there once. -/
theorem shared_twice (above below : List Text) (margin : Text) :
    shared (above ++ margin :: margin :: below) = shared (above ++ margin :: below) := by
  cases above with
  | nil => rw [List.nil_append, List.nil_append, shared, shared, List.foldl_cons,
      commonPrefix_of_prefix List.prefix_rfl]
  | cons first above =>
    rw [List.cons_append, List.cons_append, shared, shared, List.foldl_append, List.foldl_append,
      List.foldl_cons, List.foldl_cons, List.foldl_cons,
      commonPrefix_of_prefix (commonPrefix_prefix_right _ margin)]

theorem length_shared_le {margin : Text} {margins : List Text} (member : margin ∈ margins) :
    (shared margins).length ≤ margin.length := by
  obtain ⟨first, rest, rfl⟩ := List.exists_cons_of_ne_nil (List.ne_nil_of_mem member)
  have starts := foldl_commonPrefix_prefix member
  exact starts.length_le

/-! ### A row in the middle -/

/-- The size of the margin of a text in which a row with some tabbing stands between closed rows and
a rest. -/
def marginSize (above : List Text) (tabs rest : Text) : Nat :=
  (shared (margins above ++ tabs :: margins (splitOn '\n' rest).tail)).length

theorem marginSize_le (above : List Text) (tabs rest : Text) :
    marginSize above tabs rest ≤ tabs.length :=
  length_shared_le (List.mem_append_right _ List.mem_cons_self)

/-- A row of the same tabbing in front of a row does not change the margin. -/
theorem marginSize_concat (inked : isInked row = true) (above : List Text) (rest : Text) :
    marginSize (above ++ [row]) (tabbing row) rest = marginSize above (tabbing row) rest := by
  rw [marginSize, margins_append, margins_cons inked, List.append_assoc]
  exact congrArg List.length (shared_twice _ _ _)

/-- What stands behind the start of a row, without the margin of the rows behind. -/
def behindMargin (size : Nat) (rest : Text) : Text :=
  joinLines ((splitOn '\n' rest).headD [] :: (splitOn '\n' rest).tail.map (withoutMargin size))

/-- A text with a row in its middle loses its margin part by part. -/
theorem dedent_closed_append (clean : ∀ row ∈ above, '\n' ∉ row) (solid' : '\n' ∉ row)
    (inked : isInked row = true) (rest : Text) :
    dedent (closed above ++ (row ++ rest)) =
      closed (above.map (withoutMargin (marginSize above (tabbing row) rest))) ++
        (row.drop (marginSize above (tabbing row) rest) ++
          behindMargin (marginSize above (tabbing row) rest) rest) := by
  have inkedWhole : isInked (row ++ (splitOn '\n' rest).headD []) = true := by
    rw [isInked_append, inked, Bool.true_or]
  have size : marginSize above (tabbing row) rest = (shared (margins
      (above ++ (row ++ (splitOn '\n' rest).headD []) :: (splitOn '\n' rest).tail))).length := by
    rw [marginSize, margins_append, margins_cons inkedWhole, tabbing_append inked]
  have within : marginSize above (tabbing row) rest ≤ row.length :=
    Nat.le_trans (marginSize_le above _ rest) (length_tabbing_le row)
  rw [dedent, splitOn_closed_append clean, splitOn_clean_append solid', dedentLines_eq, ← size,
    List.map_append, List.map_cons, joinLines_append (List.cons_ne_nil _ _),
    withoutMargin_of_isInked inkedWhole, List.drop_append_of_le_length within,
    joinLines_cons_append]
  rfl

/-- What stands behind a row begins as before. -/
theorem head?_behindMargin (size : Nat) (rest : Text) :
    (behindMargin size rest).head? = rest.head? := by
  have whole := joinLines_splitOn rest
  obtain ⟨part, parts, cut⟩ := List.exists_cons_of_ne_nil (splitOn_ne_nil '\n' rest)
  rw [behindMargin, cut, List.headD_cons, List.tail_cons]
  rw [cut] at whole
  rw [← whole]
  cases parts with
  | nil => rfl
  | cons next parts =>
    rw [List.map_cons, joinLines_cons (List.cons_ne_nil _ _),
      joinLines_cons (List.cons_ne_nil _ _)]
    cases part <;> rfl

/-! ### Its line -/

/-- Whether no line break is in a text. -/
def isUnbroken (text : Text) : Bool := text.all (!isLineBreak ·)

/-- Whether a text is empty or ends with a line break. -/
def EndsLine (text : Text) : Prop := text = [] ∨ text.getLast?.any isLineBreak = true

theorem isUnbroken_append (left right : Text) :
    isUnbroken (left ++ right) = (isUnbroken left && isUnbroken right) := List.all_append

theorem not_mem_of_isUnbroken (unbroken : isUnbroken text = true)
    (breaks : isLineBreak char = true) : char ∉ text :=
  not_mem_of_all unbroken (by rw [breaks]; rfl)

theorem isInked_of_not_isBlankText (solid' : isBlankText row = false) : isInked row = true := by
  rw [isInked, Bool.not_eq_true']
  exact Bool.eq_false_iff.mpr fun spaces =>
    Bool.false_ne_true (solid'.symm.trans (isBlankText_of_all_isSpaceOrTab spaces))

/-- A row of its own is a line in front of the lines behind its break. -/
theorem lines_row_append (unbroken : isUnbroken row = true) (written : row ≠ [])
    (ends : rest.head?.all isLineBreak = true) :
    lines (row ++ rest) = row :: (lines rest).tail := by
  have first : (lines rest).headD [] = [] := by
    cases rest with
    | nil => rfl
    | cons char rest =>
      unfold lines
      split <;> simp_all
  induction row with
  | nil => exact absurd rfl written
  | cons char row inductionHypothesis =>
    rw [isUnbroken, List.all_cons, Bool.and_eq_true, Bool.not_eq_true'] at unbroken
    rw [List.cons_append, lines_cons_of_not_break unbroken.1]
    cases row with
    | nil => rw [List.nil_append, first]
    | cons next row =>
      rw [inductionHypothesis unbroken.2 (List.cons_ne_nil _ _)]
      rfl

theorem lines_append_row (opens : EndsLine before) (unbroken : isUnbroken row = true)
    (written : row ≠ []) (rest : Text) :
    lines (before ++ (row ++ rest)) = lines before ++ lines (row ++ rest) := by
  obtain ⟨char, row, rfl⟩ := List.exists_cons_of_ne_nil written
  rcases opens with rfl | breaks
  · rfl
  · obtain ⟨front, mark, rfl⟩ : ∃ front mark, before = front ++ [mark] := by
      rcases List.eq_nil_or_concat before with rfl | ⟨front, mark, cut⟩
      · cases breaks
      · exact ⟨front, mark, by rw [cut, List.concat_eq_append]⟩
    rw [List.getLast?_concat] at breaks
    rw [List.append_assoc, List.singleton_append]
    refine lines_append_break breaks (fun _ newline => ?_) front
    have solid' : isLineBreak char = false := by
      rw [isUnbroken, List.all_cons, Bool.and_eq_true, Bool.not_eq_true'] at unbroken
      exact unbroken.1
    rw [List.cons_append, List.head?_cons] at newline
    rw [Option.some.inj newline] at solid'
    exact absurd solid' (by decide)

theorem getLast?_closed (rows : List Text) :
    closed rows = [] ∨ (closed rows).getLast? = some '\n' := by
  rcases List.eq_nil_or_concat rows with rfl | ⟨above, row, rfl⟩
  · exact Or.inl rfl
  · have last : closed [row] = row ++ ['\n'] := List.append_nil _
    rw [List.concat_eq_append, closed_append, last, ← List.append_assoc, List.getLast?_concat]
    exact Or.inr rfl

theorem endsLine_closed (rows : List Text) : EndsLine (closed rows) :=
  (getLast?_closed rows).imp_right fun newline => by rw [newline]; decide

theorem tabbing_prefix_indentOf (row : Text) : tabbing row <+: indentOf row := by
  induction row with
  | nil => exact List.prefix_rfl
  | cons char row inductionHypothesis =>
    rw [tabbing, indentOf, List.takeWhile_cons, List.takeWhile_cons]
    split
    · rename_i space
      rw [if_pos (isBlank_of_isSpaceOrTab space)]
      exact List.cons_prefix_cons.mpr ⟨rfl, inductionHypothesis⟩
    · exact List.nil_prefix

theorem isInked_of_begins (begins : text.head?.any (!isBlank ·) = true) : isInked text = true := by
  obtain ⟨first, rest, rfl⟩ := List.exists_cons_of_ne_nil
    (show text ≠ [] by rintro rfl; cases begins)
  refine isInked_of_not_isBlankText ?_
  rw [isBlankText, List.all_cons, show isBlank first = false by simpa using begins, Bool.false_and]

/-- A row with the indentation of another one has its spaces and tabs. -/
theorem tabbing_indentOf_append {note : Text} (solid' : isBlankText row = false)
    (begins : note.head?.any (!isBlank ·) = true) :
    tabbing (indentOf row ++ note) = tabbing row := by
  have none' {char : Char} (solid' : isBlank char = false) (text : Text) :
      tabbing (char :: text) = [] :=
    List.takeWhile_cons_of_neg fun space =>
      Bool.false_ne_true (solid'.symm.trans (isBlank_of_isSpaceOrTab space))
  induction row with
  | nil => cases solid'
  | cons char row inductionHypothesis =>
    cases blank : isBlank char with
    | false =>
      rw [none' blank, indentOf, List.takeWhile_cons_of_neg (by simp [blank]), List.nil_append]
      obtain ⟨first, note, rfl⟩ := List.exists_cons_of_ne_nil
        (show note ≠ [] by rintro rfl; cases begins)
      exact none' (by simpa using begins) note
    | true =>
      rw [isBlankText, List.all_cons, blank, Bool.true_and] at solid'
      rw [indentOf, List.takeWhile_cons_of_pos blank, List.cons_append, tabbing, tabbing,
        List.takeWhile_cons, List.takeWhile_cons]
      split
      · exact congrArg (char :: ·) (inductionHypothesis solid')
      · rfl

/-- How a text in which a row stands loses its margin: what stands in front of the row becomes
`front`, the row loses `tabs`, and the rows behind it lose `size` characters, whatever stands
directly behind the row, and also if a note of its indentation stands on a row in front of it. -/
structure LosesMargin (before row after front tabs left : Text) (size : Nat) : Prop where
  ends : EndsLine front
  cut : row = tabs ++ left
  spaces : tabs.all isSpaceOrTab = true
  longer : ∀ tail, '\n' ∉ tail → dedent (before ++ (row ++ (tail ++ after))) =
    front ++ (left ++ (tail ++ behindMargin size after))
  headed : ∀ note mark, '\n' ∉ note → note.head?.any (!isBlank ·) = true →
    (mark = '\n' ↔ before = [] ∨ before.getLast? = some '\n') →
    ∃ lead, lead ⊆ indentOf row ∧
      dedent (before ++ (indentOf row ++ note ++ mark :: (row ++ after))) =
        front ++ (lead ++ note ++ mark :: (left ++ behindMargin size after))

theorem indentOf_subset (row : Text) : indentOf row ⊆ row :=
  (List.takeWhile_prefix isBlank).subset

/-- A row on its own between newlines: its spaces and tabs count for the margin. -/
theorem exists_losesMargin_of_closed (clean : ∀ row ∈ above, '\n' ∉ row)
    (unbroken : isUnbroken row = true) (solid' : isBlankText row = false) (after : Text) :
    ∃ front tabs left size, LosesMargin (closed above) row after front tabs left size := by
  have rowClean := not_mem_of_isUnbroken unbroken isLineBreak_newline
  have inked := isInked_of_not_isBlankText solid'
  generalize atSize : marginSize above (tabbing row) after = size
  have few : size ≤ (tabbing row).length := atSize ▸ marginSize_le above _ after
  have fits : size ≤ row.length := Nat.le_trans few (length_tabbing_le row)
  refine ⟨closed (above.map (withoutMargin size)), row.take size, row.drop size, size,
    endsLine_closed _, (List.take_append_drop size row).symm, ?_, fun tail tailClean => ?_,
    fun note mark noteClean begins newline => ⟨(indentOf row).drop size, ?_, ?_⟩⟩
  · obtain ⟨behind, cut⟩ : tabbing row <+: row := List.takeWhile_prefix isSpaceOrTab
    rw [← cut, List.take_append_of_le_length few]
    exact List.all_eq_true.mpr fun char member =>
      List.all_eq_true.mp List.all_takeWhile char (List.mem_of_mem_take member)
  · have whole := @dedent_closed_append (row ++ tail) above clean
      (by simp [rowClean, tailClean]) (by rw [isInked_append, inked, Bool.true_or]) after
    rw [tabbing_append inked, atSize, List.drop_append_of_le_length fits] at whole
    simpa using whole
  · exact List.drop_subset size _
  · -- The note has the margin of the row, so it does not change the margin of the text.
    obtain rfl : mark = '\n' := newline.mpr (getLast?_closed above)
    have same := tabbing_indentOf_append solid' begins
    have noteInked : isInked (indentOf row ++ note) = true := by
      rw [isInked_append, isInked_of_begins begins, Bool.or_true]
    have indentFits : size ≤ (indentOf row).length :=
      Nat.le_trans few (tabbing_prefix_indentOf row).length_le
    have cleanMore : ∀ line ∈ above ++ [indentOf row ++ note], '\n' ∉ line := by
      intro line member
      rcases List.mem_append.mp member with earlier | here
      · exact clean line earlier
      · rw [List.mem_singleton.mp here, List.mem_append, not_or]
        exact ⟨fun member => rowClean (indentOf_subset row member), noteClean⟩
    have whole := dedent_closed_append cleanMore rowClean inked after
    have atSize' := marginSize_concat noteInked above after
    rw [same, atSize] at atSize'
    rw [atSize', List.map_append, closed_append, List.map_singleton,
      withoutMargin_of_isInked noteInked, List.drop_append_of_le_length indentFits,
      closed_append] at whole
    simpa [closed] using whole

/-- What ends in a line break besides a newline has a margin of its own, and loses only of what
stands in front of the break. -/
theorem dedent_closed_append_break {front : Text} (clean : ∀ row ∈ above, '\n' ∉ row)
    (frontClean : '\n' ∉ front ++ [char]) (breaks : isLineBreak char = true) (after : Text) :
    ∃ size, ∀ more, '\n' ∉ more →
      dedent (closed above ++ (front ++ [char]) ++ (more ++ after)) =
        closed (above.map (withoutMargin size)) ++ (front.drop size ++ [char]) ++
          (more ++ behindMargin size after) := by
  have inked : isInked (front ++ [char]) = true := by
    have ink : isSpaceOrTab char = false := by
      refine Bool.eq_false_iff.mpr fun space => ?_
      rw [isSpaceOrTab, Bool.or_eq_true, decide_eq_true_eq, decide_eq_true_eq] at space
      rcases space with rfl | rfl <;> exact absurd breaks (by decide)
    rw [isInked_append, Bool.or_eq_true]
    exact Or.inr (by rw [isInked, List.all_cons, ink]; rfl)
  generalize atSize : marginSize above (tabbing (front ++ [char])) after = size
  have fits : size ≤ front.length := by
    have few := marginSize_le above (tabbing (front ++ [char])) after
    have fewer := length_tabbing_lt inked
    rw [List.length_append, List.length_singleton] at fewer
    omega
  refine ⟨size, fun more moreClean => ?_⟩
  have cut := @dedent_closed_append (front ++ [char] ++ more) above clean
    (by rw [List.mem_append, not_or]; exact ⟨frontClean, moreClean⟩)
    (by rw [isInked_append, inked, Bool.true_or]) after
  have dropped : (front ++ [char] ++ more).drop size = front.drop size ++ [char] ++ more := by
    rw [List.append_assoc, List.drop_append_of_le_length fits, List.append_assoc]
  rw [tabbing_append inked, atSize, dropped] at cut
  simpa using cut

/-- A row behind another line break: its spaces and tabs do not count, and all of them stay. -/
theorem exists_losesMargin_of_break {front : Text} (clean : ∀ row ∈ above, '\n' ∉ row)
    (frontClean : '\n' ∉ front ++ [char]) (breaks : isLineBreak char = true)
    (unbroken : isUnbroken row = true) (after : Text) :
    ∃ front' tabs left size,
      LosesMargin (closed above ++ (front ++ [char])) row after front' tabs left size := by
  have rowClean := not_mem_of_isUnbroken unbroken isLineBreak_newline
  obtain ⟨size, whole⟩ := dedent_closed_append_break clean frontClean breaks after
  have last : (closed above ++ (front ++ [char])).getLast? = some char := by
    rw [← List.append_assoc, List.getLast?_concat]
  refine ⟨closed (above.map (withoutMargin size)) ++ (front.drop size ++ [char]), [], row, size,
    Or.inr (by rwa [← List.append_assoc, List.getLast?_concat]), rfl, rfl,
    fun tail tailClean => ?_,
    fun note mark noteClean begins newline => ⟨indentOf row, List.Subset.refl _, ?_⟩⟩
  · simpa using whole (row ++ tail) (by simp [rowClean, tailClean])
  · have other : mark ≠ '\n' := by
      intro same
      rcases newline.mp same with none' | newlineLast
      · rw [none', List.getLast?_nil] at last
        cases last
      · rw [last, Option.some.injEq] at newlineLast
        exact frontClean (newlineLast ▸ List.mem_append_right _ List.mem_cons_self)
    have indentClean : '\n' ∉ indentOf row := fun member => rowClean (indentOf_subset row member)
    have cleanMore : '\n' ∉ indentOf row ++ note ++ mark :: row := by
      simp [indentClean, noteClean, rowClean, Ne.symm other]
    simpa using whole (indentOf row ++ note ++ mark :: row) cleanMore

/-- The margin of a text in which a row stands is taken away from the row, or from what stands in
front of it between newlines. -/
theorem exists_losesMargin (opens : EndsLine before) (unbroken : isUnbroken row = true)
    (solid' : isBlankText row = false) (after : Text) :
    ∃ front tabs left size, LosesMargin before row after front tabs left size := by
  obtain ⟨above, last, clean, lastClean, rfl⟩ := exists_closed before
  rcases List.eq_nil_or_concat last with rfl | ⟨front, char, rfl⟩
  · rw [List.append_nil]
    exact exists_losesMargin_of_closed clean unbroken solid' after
  · rw [List.concat_eq_append] at lastClean opens ⊢
    have breaks : isLineBreak char = true := by
      rcases opens with none' | ends
      · simp at none'
      · rwa [← List.append_assoc, List.getLast?_concat] at ends
    exact exists_losesMargin_of_break clean lastClean breaks unbroken after

/-- The lines of a text in which a row stands: they are the same but for the row if something comes
behind the row, and if a row of its indentation comes in front of it, there is one line more. -/
theorem exists_lines_dedent (opens : EndsLine before) (unbroken : isUnbroken row = true)
    (solid' : isBlankText row = false) (closes : after.head?.all isLineBreak = true) :
    ∃ above below tabs left, row = tabs ++ left ∧ tabs.all isSpaceOrTab = true ∧
      (∀ tail, isUnbroken tail = true →
        lines (dedent (before ++ (row ++ (tail ++ after)))) = above ++ (left ++ tail) :: below) ∧
      ∀ note mark, isUnbroken note = true → note.head?.any (!isBlank ·) = true →
        isLineBreak mark = true → (mark = '\n' ↔ before = [] ∨ before.getLast? = some '\n') →
        ∃ lead, isBlankText lead = true ∧
          lines (dedent (before ++ (indentOf row ++ note ++ mark :: (row ++ after)))) =
            above ++ (lead ++ note) :: left :: below := by
  obtain ⟨front, tabs, left, size, frontEnds, rfl, spaces, longer, headed⟩ :=
    exists_losesMargin opens unbroken solid' after
  have leftUnbroken : isUnbroken left = true := by
    rw [isUnbroken_append, Bool.and_eq_true] at unbroken
    exact unbroken.2
  have written : left ≠ [] := by
    rintro rfl
    rw [List.append_nil, isBlankText_of_all_isSpaceOrTab spaces] at solid'
    cases solid'
  have ends : (behindMargin size after).head?.all isLineBreak = true := by
    rwa [head?_behindMargin]
  refine ⟨lines front, (lines (behindMargin size after)).tail, tabs, left, rfl, spaces,
    fun tail tailUnbroken => ?_, fun note mark noteUnbroken begins breaks newline => ?_⟩
  · have whole : isUnbroken (left ++ tail) = true := by
      rw [isUnbroken_append, leftUnbroken, tailUnbroken]
      rfl
    rw [longer tail (not_mem_of_isUnbroken tailUnbroken isLineBreak_newline),
      ← List.append_assoc left, lines_append_row frontEnds whole (by simp [written]),
      lines_row_append whole (by simp [written]) ends]
  · obtain ⟨lead, among, dedented⟩ := headed note mark
      (not_mem_of_isUnbroken noteUnbroken isLineBreak_newline) begins newline
    have leadUnbroken : isUnbroken lead = true := List.all_eq_true.mpr fun char member =>
      List.all_eq_true.mp unbroken char (indentOf_subset _ (among member))
    have leadBlank : isBlankText lead = true := List.all_eq_true.mpr fun char member =>
      List.all_eq_true.mp List.all_takeWhile char (among member)
    have whole : isUnbroken (lead ++ note) = true := by
      rw [isUnbroken_append, leadUnbroken, noteUnbroken]
      rfl
    have noteWritten : lead ++ note ≠ [] := by
      intro none'
      rw [(List.append_eq_nil_iff.mp none').2] at begins
      cases begins
    have notNewline : mark = '\r' → (left ++ behindMargin size after).head? ≠ some '\n' := by
      intro _ newline
      obtain ⟨first, more, rfl⟩ := List.exists_cons_of_ne_nil written
      rw [List.cons_append, List.head?_cons, Option.some.injEq] at newline
      exact not_mem_of_isUnbroken leftUnbroken isLineBreak_newline (newline ▸ List.mem_cons_self)
    have markEnds : (mark :: (left ++ behindMargin size after)).head?.all isLineBreak = true :=
      breaks
    refine ⟨lead, leadBlank, ?_⟩
    rw [dedented, lines_append_row frontEnds whole noteWritten,
      lines_row_append whole noteWritten markEnds, lines_cons_of_break breaks notNewline,
      lines_row_append leftUnbroken written ends, List.tail_cons]

/-! ### Rows in their place -/

/-- Rows without breaks that are closed by newlines are the lines of the text. -/
theorem lines_closed (solid' : ∀ row ∈ rows, isUnbroken row = true ∧ isInked row = true) :
    lines (closed rows) = rows := by
  induction rows with
  | nil => rfl
  | cons row rows inductionHypothesis =>
    obtain ⟨unbroken, inked⟩ := solid' row List.mem_cons_self
    have written : row ≠ [] := by
      rintro rfl
      cases inked
    have cut : closed (row :: rows) = row ++ '\n' :: closed rows := by simp [closed]
    rw [cut, lines_row_append unbroken written (by rfl), lines_newline, List.tail_cons,
      inductionHypothesis fun row member => solid' row (List.mem_cons_of_mem _ member)]

/-- Rows lose nothing with their margin if the first one has none. -/
theorem dedent_closed (solid' : ∀ row ∈ rows, '\n' ∉ row ∧ isInked row = true)
    (flush : rows.head?.all (fun row => (tabbing row).isEmpty) = true) :
    dedent (closed rows) = closed rows := by
  have cut := splitOn_closed_append (fun row member => (solid' row member).1) []
  rw [List.append_nil] at cut
  have kept (size : Nat) (none' : size = 0) :
      (rows ++ [[]]).map (withoutMargin size) = rows ++ [[]] := by
    rw [none', List.map_append, List.map_singleton]
    congr 1
    conv => rhs; rw [← List.map_id rows]
    exact List.map_congr_left fun row member =>
      withoutMargin_of_isInked (solid' row member).2 0
  have size : (shared (margins (rows ++ [[]]))).length = 0 := by
    cases rows with
    | nil => rfl
    | cons row rows =>
      have none' : tabbing row = [] := List.isEmpty_iff.mp flush
      rw [List.cons_append, margins_cons (solid' row List.mem_cons_self).2, none']
      exact Nat.le_zero.mp (length_shared_le List.mem_cons_self)
  rw [dedent, cut, splitOn, dedentLines_eq, kept _ size, joinLines_append (List.cons_ne_nil _ _)]
  exact List.append_nil _

end GuidedMigration.Text
