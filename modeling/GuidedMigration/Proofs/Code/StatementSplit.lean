/-
This file compares the statements that code is split into with those that were joined to it by blank
lines. A statement is cut off behind the first of its rows that ends like a statement while no
bracket is open, be it the last one or not. So what was joined is found again exactly if no
statement has such a row before its last one and none but the last statement leaves brackets open. A
statement that a semicolon closes where its brackets are closed meets this; an element need not.

Then it says which rows of any piece of code its statements take. The rows fall into statements and
the blank rows in front of them: a statement starts with a row that is not blank and takes the rows
up to the first one behind which it is cut off; only the last one may come to the end of the code
before. So no row that is not blank is lost, and none is made up.
-/
import GuidedMigration.Proofs.Migration.Planned
import GuidedMigration.Proofs.Text.Lines

namespace GuidedMigration

open Text

namespace Code

variable {text row : Text} {rows rest current texts : List Text}

/-! ### Where statements are cut -/

/-- How many brackets are open behind rows. -/
def depthBehind : List Text → Int
  | [] => 0
  | row :: rows => bracketBalance row + depthBehind rows

/-- Whether a statement that has rows so far is cut off behind them. -/
def IsCut (rows : List Text) : Prop :=
  depthBehind rows ≤ 0 ∧ rows.getLast?.any mayEnd = true

instance (rows : List Text) : Decidable (IsCut rows) := inferInstanceAs (Decidable (_ ∧ _))

/-- Whether a text is not cut off before its end. -/
def IsUncut (text : Text) : Prop :=
  ∀ count < (lines text).length, 0 < count → ¬ IsCut ((lines text).take count)

instance (text : Text) : Decidable (IsUncut text) :=
  inferInstanceAs (Decidable (∀ count < (lines text).length, _))

theorem depthBehind_concat (rows : List Text) (row : Text) :
    depthBehind (rows ++ [row]) = depthBehind rows + bracketBalance row := by
  induction rows with
  | nil => exact Int.add_comm _ _
  | cons first rows inductionHypothesis =>
    rw [List.cons_append, depthBehind, inductionHypothesis, depthBehind, Int.add_assoc]

theorem isCut_concat :
    IsCut (rows ++ [row]) ↔ depthBehind (rows ++ [row]) ≤ 0 ∧ mayEnd row = true := by
  rw [IsCut, List.getLast?_concat, Option.any_some]

/-- A row goes to the statement that is open, or to a new one if it is not blank, and the statement
ends with it exactly if it is cut off behind it. -/
theorem statementsFrom_cons (some' : current ≠ [] ∨ isBlankText row = false) (rows : List Text) :
    statementsFrom current (depthBehind current.reverse) (row :: rows) =
      if IsCut (current.reverse ++ [row]) then
        (current.reverse ++ [row]) :: statementsFrom [] 0 rows
      else statementsFrom (row :: current) (depthBehind (row :: current).reverse) rows := by
  have taken : ¬ (current.isEmpty && isBlankText row) = true := by
    rw [Bool.and_eq_true, List.isEmpty_iff]
    rintro ⟨none', blank⟩
    exact some'.elim (absurd none') fun solid' => Bool.false_ne_true (solid'.symm.trans blank)
  rw [statementsFrom, if_neg taken, List.reverse_cons, depthBehind_concat]
  simp only [Bool.and_eq_true, decide_eq_true_eq, isCut_concat, depthBehind_concat]

theorem any_head?_append {wanted : Text → Bool} (begins : rows.head?.any wanted = true)
    (rest : List Text) : (rows ++ rest).head?.any wanted = true := by
  cases rows with
  | nil => exact absurd begins Bool.false_ne_true
  | cons row rows => exact begins

/-- Rows behind none of which but the last one a statement is cut off stay together. -/
theorem statementsFrom_append (some' : current ≠ [] ∨ rows.head?.any (!isBlankText ·) = true)
    (more : rows ≠ [])
    (uncut : ∀ count < rows.length, 0 < count → ¬ IsCut (current.reverse ++ rows.take count))
    (rest : List Text) :
    statementsFrom current (depthBehind current.reverse) (rows ++ rest) =
      if IsCut (current.reverse ++ rows) then
        (current.reverse ++ rows) :: statementsFrom [] 0 rest
      else statementsFrom (rows.reverse ++ current) (depthBehind (current.reverse ++ rows))
        rest := by
  induction rows generalizing current with
  | nil => exact absurd rfl more
  | cons row rows inductionHypothesis =>
    rw [List.cons_append, statementsFrom_cons (by simpa using some')]
    cases rows with
    | nil => rw [List.reverse_cons]; rfl
    | cons next rows =>
      have here : ¬ IsCut (current.reverse ++ [row]) := uncut 1 (by simp) Nat.one_pos
      have behind : current.reverse ++ row :: next :: rows =
          (row :: current).reverse ++ next :: rows := by simp
      rw [if_neg here, behind,
        inductionHypothesis (.inl (by simp)) (by simp) fun count bound positive => ?_]
      · simp
      · rw [List.reverse_cons, List.append_assoc]
        exact uncut (count + 1) (by simpa using bound) (Nat.succ_pos count)

/-- A statement takes at least one of the rows that follow, and none behind which it is cut off. -/
theorem exists_statementsFrom (some' : current ≠ [] ∨ rows.head?.any (!isBlankText ·) = true)
    (more : rows ≠ []) :
    ∃ taken others, 0 < taken ∧
      (∀ count, 0 < count → IsCut (current.reverse ++ rows.take count) → taken ≤ count) ∧
      statementsFrom current (depthBehind current.reverse) rows =
        (current.reverse ++ rows.take taken) :: others := by
  induction rows generalizing current with
  | nil => exact absurd rfl more
  | cons row rows inductionHypothesis =>
    rw [statementsFrom_cons (by simpa using some')]
    by_cases cut : IsCut (current.reverse ++ [row])
    · rw [if_pos cut]
      exact ⟨1, statementsFrom [] 0 rows, Nat.one_pos, fun _ positive _ => positive, rfl⟩
    rw [if_neg cut]
    by_cases more : rows = []
    · refine ⟨1, [], Nat.one_pos, fun _ positive _ => positive, ?_⟩
      simp [more, statementsFrom]
    · obtain ⟨taken, others, -, least, found⟩ :=
        @inductionHypothesis (row :: current) (.inl (by simp)) more
      refine ⟨taken + 1, others, Nat.succ_pos taken, fun count positive here => ?_, ?_⟩
      · obtain ⟨count, rfl⟩ := Nat.exists_eq_succ_of_ne_zero (Nat.ne_of_gt positive)
        rw [List.take_succ_cons] at here
        rcases Nat.eq_zero_or_pos count with rfl | positive
        · exact absurd (by simpa using here) cut
        · exact Nat.succ_le_succ (least count positive (by simpa using here))
      · simpa using found

/-! ### What is cut off first -/

/-- Rows of which the first one is not blank have a text. -/
theorem trim_joinLines_ne_nil (solid' : rows.head?.any (!isBlankText ·) = true) :
    trim (joinLines rows) ≠ [] := by
  intro none'
  have rowless : solidRows (joinLines rows) = [] := by
    rw [← solidRows_trimWhile (fun _ => id), ← trim, none']
    rfl
  cases rows with
  | nil => exact absurd solid' Bool.false_ne_true
  | cons row rows =>
    rw [solidRows_joinLines, List.flatMap_cons, List.append_eq_nil_iff] at rowless
    rw [List.head?_cons, Option.any_some, isBlankText_of_solidRows rowless.1] at solid'
    exact Bool.false_ne_true solid'

/-- A statement with a row that is not blank at its start is found. -/
theorem statements_eq_cons {code : Text} {first : List Text} {others : List (List Text)}
    (cut : statementsFrom [] 0 (lines code) = first :: others)
    (solid' : first.head?.any (!isBlankText ·) = true) :
    statements code = trim (joinLines first) ::
      (others.map fun rows => trim (joinLines rows)).filter (!·.isEmpty) := by
  have some' := trim_joinLines_ne_nil solid'
  rw [statements, cut, List.map_cons, List.filter_cons_of_pos (by simpa using some')]

/-- If a statement is the text that its rows begin with or that begins with its rows, then what one
of them has beyond the other is blank. -/
theorem flatMap_solidRows_of_trim {first : List Text} (same : trim (joinLines first) = text) :
    first.flatMap solidRows = (lines text).flatMap solidRows := by
  rw [flatMap_lines, ← same, trim, solidRows_trimWhile (fun _ => id), solidRows_joinLines]

/-- The rows of a text that is not cut off before its end stay together. -/
theorem statementsFrom_lines (trimmed : IsTrimmed text) (uncut : IsUncut text)
    (rest : List Text) :
    statementsFrom [] 0 (lines text ++ rest) =
      if IsCut (lines text) then lines text :: statementsFrom [] 0 rest
      else statementsFrom (lines text).reverse (depthBehind (lines text)) rest := by
  have together := @statementsFrom_append (lines text) [] (.inr trimmed.head?_lines)
    trimmed.lines_ne_nil uncut rest
  rwa [List.reverse_nil, List.nil_append, List.append_nil] at together

/-- A statement that is not cut off before its end is found as its rows are joined. -/
theorem statements_of_isUncut (trimmed : IsTrimmed text) (uncut : IsUncut text) :
    statements text = [joinLines (lines text)] := by
  have cut : statementsFrom [] 0 (lines text) = [lines text] := by
    rw [← List.append_nil (lines text), statementsFrom_lines trimmed uncut, List.append_nil]
    split
    · rfl
    · rw [statementsFrom, if_neg (by simpa using trimmed.lines_ne_nil), List.reverse_reverse]
  rw [statements_eq_cons cut trimmed.head?_lines, trimmed.rejoined.trim_eq]
  rfl

/-- So it is in front of a blank line, if it leaves no brackets open, whatever follows. -/
theorem statements_append (trimmed : IsTrimmed text) (uncut : IsUncut text)
    (settled : depthBehind (lines text) ≤ 0) (behind : Text) :
    statements (text ++ '\n' :: '\n' :: behind) =
      joinLines (lines text) :: statements behind := by
  have begins := trimmed.head?_lines
  have together := statementsFrom_lines trimmed uncut ([] :: lines behind)
  rw [← trimmed.lines_append] at together
  by_cases cut : IsCut (lines text)
  · rw [if_pos cut] at together
    rw [statements_eq_cons together begins, trimmed.rejoined.trim_eq]
    rfl
  · -- The statement is cut off behind the blank line, which trimming takes away.
    have blank : IsCut (lines text ++ [[]]) :=
      isCut_concat.mpr
        ⟨by rwa [depthBehind_concat, show bracketBalance [] = 0 from rfl, Int.add_zero], rfl⟩
    have next := @statementsFrom_cons [] (lines text).reverse
      (.inl (by simpa using trimmed.lines_ne_nil)) (lines behind)
    rw [List.reverse_reverse, if_pos blank] at next
    rw [if_neg cut, next] at together
    have begins' := any_head?_append begins [[]]
    have shown : trim (joinLines (lines text ++ [[]])) = joinLines (lines text) := by
      have newline : joinLines (lines text ++ [[]]) = joinLines (lines text) ++ ['\n'] := by
        rw [joinLines_append (by simp), ← joinLines_concat_newline trimmed.lines_ne_nil]
        exact List.append_nil _
      rw [newline, trim_concat_of_blank (by decide), trimmed.rejoined.trim_eq]
    rw [statements_eq_cons together begins', shown]
    rfl

/-- A text that is cut off before its end is not the first statement. -/
theorem head?_statements_of_not_isUncut {code : Text} (trimmed : IsTrimmed text)
    (torn : ¬ IsUncut text) (starts : lines code = lines text ++ rest) :
    (statements code).head? ≠ some text := by
  obtain ⟨count, bound, positive, cut⟩ : ∃ count < (lines text).length, 0 < count ∧
      IsCut ((lines text).take count) := by
    simpa [IsUncut] using torn
  obtain ⟨taken, others, some', least, found⟩ := @exists_statementsFrom (lines text ++ rest) []
    (.inr (any_head?_append trimmed.head?_lines rest)) (by simp [trimmed.lines_ne_nil])
  have shorter : taken < (lines text).length := by
    refine Nat.lt_of_le_of_lt (least count positive ?_) bound
    rwa [List.reverse_nil, List.nil_append, List.take_append_of_le_length (Nat.le_of_lt bound)]
  rw [List.reverse_nil, List.nil_append, List.take_append_of_le_length (Nat.le_of_lt shorter),
    ← starts] at found
  have begins' : ((lines text).take taken).head?.any (!isBlankText ·) = true := by
    rw [List.head?_take, if_neg (Nat.ne_of_gt some')]
    exact trimmed.head?_lines
  rw [statements_eq_cons found begins', List.head?_cons, Ne, Option.some.injEq]
  intro same
  have all := flatMap_solidRows_of_trim same
  conv at all => rhs; rw [← List.take_append_drop taken (lines text), List.flatMap_append]
  have beyond : ((lines text).drop taken).flatMap solidRows = [] :=
    List.append_cancel_left (all.symm.trans (List.append_nil _).symm)
  -- The last row of the text is beyond the rows taken, and it is not blank.
  obtain ⟨rows, last, split, -, ends⟩ := trimmed.exists_lines
  rw [split, List.length_append, List.length_singleton] at shorter
  rw [split, List.drop_append_of_le_length (Nat.le_of_lt_succ shorter), List.flatMap_append,
    List.append_eq_nil_iff, List.flatMap_singleton] at beyond
  exact Bool.false_ne_true
    ((not_isBlankText_of_ends ends).symm.trans (isBlankText_of_solidRows beyond.2))

/-- Nor is a text that leaves brackets open in front of a further one. -/
theorem head?_statements_of_open {behind : Text} (trimmed : IsTrimmed text) (uncut : IsUncut text)
    (open' : 0 < depthBehind (lines text))
    (more : (lines behind).head?.any (!isBlankText ·) = true) :
    (statements (text ++ '\n' :: '\n' :: behind)).head? ≠ some text := by
  have begins := trimmed.head?_lines
  have uncut' : ¬ IsCut (lines text) := fun cut => absurd open' (Int.not_lt.mpr cut.1)
  have uncut'' : ¬ IsCut (lines text ++ [[]]) := fun cut => by
    rw [isCut_concat, depthBehind_concat, show bracketBalance [] = 0 from rfl, Int.add_zero] at cut
    exact absurd open' (Int.not_lt.mpr cut.1)
  have together := statementsFrom_lines trimmed uncut ([] :: lines behind)
  have next := @statementsFrom_cons [] (lines text).reverse
    (.inl (by simpa using trimmed.lines_ne_nil)) (lines behind)
  obtain ⟨taken, others, some', -, found⟩ := @exists_statementsFrom (lines behind)
    ([] :: (lines text).reverse) (.inl (by simp)) (by
      intro none'
      rw [none'] at more
      exact Bool.false_ne_true more)
  rw [List.reverse_reverse, if_neg uncut'', found] at next
  rw [← trimmed.lines_append, if_neg uncut', next, List.reverse_cons, List.reverse_reverse,
    List.append_assoc] at together
  rw [statements_eq_cons together (any_head?_append begins _), List.head?_cons, Ne,
    Option.some.injEq]
  intro same
  have all := flatMap_solidRows_of_trim same
  rw [List.flatMap_append] at all
  have beyond : ([] :: (lines behind).take taken).flatMap solidRows = [] :=
    List.append_cancel_left (all.trans (List.append_nil _).symm)
  -- The first row beyond the blank line is taken, and it is not blank.
  obtain ⟨taken, rfl⟩ := Nat.exists_eq_succ_of_ne_zero (Nat.ne_of_gt some')
  cases split : lines behind with
  | nil =>
    rw [split] at more
    exact Bool.false_ne_true more
  | cons row rows =>
    rw [split] at beyond more
    rw [List.take_succ_cons, List.flatMap_cons, List.flatMap_cons, List.append_eq_nil_iff,
      List.append_eq_nil_iff] at beyond
    rw [List.head?_cons, Option.any_some, isBlankText_of_solidRows beyond.2.1] at more
    exact Bool.false_ne_true more

/-! ### What was joined -/

/-- Texts with blank lines between them. -/
def spaced (texts : List Text) : Text := joinWith ['\n', '\n'] texts

theorem spaced_cons (more : texts ≠ []) :
    spaced (text :: texts) = text ++ '\n' :: '\n' :: spaced texts := by
  obtain ⟨next, texts, rfl⟩ := List.exists_cons_of_ne_nil more
  simp [spaced, joinWith]

theorem head?_lines_spaced (trimmed : ∀ text ∈ texts, IsTrimmed text) (more : texts ≠ []) :
    (lines (spaced texts)).head?.any (!isBlankText ·) = true := by
  obtain ⟨text, texts, rfl⟩ := List.exists_cons_of_ne_nil more
  have first := trimmed text List.mem_cons_self
  by_cases more : texts = []
  · rw [more]
    exact first.head?_lines
  · rw [spaced_cons more, first.lines_append]
    exact any_head?_append first.head?_lines _

/-- Texts are found again exactly if none of them is cut off before its end or has another line
break than newlines, and none but the last one leaves brackets open. -/
theorem statements_spaced_iff (trimmed : ∀ text ∈ texts, IsTrimmed text) :
    statements (spaced texts) = texts ↔
      (∀ text ∈ texts, IsUncut text ∧ joinLines (lines text) = text) ∧
        ∀ text ∈ texts.dropLast, depthBehind (lines text) ≤ 0 := by
  induction texts with
  | nil => exact iff_of_true rfl (by simp)
  | cons text texts inductionHypothesis =>
    obtain ⟨first, others⟩ := List.forall_mem_cons.mp trimmed
    have begin' (same : statements (spaced (text :: texts)) = text :: texts) :
        (statements (spaced (text :: texts))).head? = some text := by
      rw [same, List.head?_cons]
    rw [List.forall_mem_cons]
    by_cases uncut : IsUncut text
    · by_cases more : texts = []
      · subst more
        rw [show spaced [text] = text from rfl, statements_of_isUncut first uncut]
        simp [uncut]
      · rw [List.dropLast_cons_of_ne_nil more, List.forall_mem_cons]
        rw [spaced_cons more] at begin' ⊢
        by_cases settled : depthBehind (lines text) ≤ 0
        · rw [statements_append first uncut settled, List.cons.injEq, inductionHypothesis others]
          simp only [uncut, settled, true_and, and_assoc]
        · refine iff_of_false (fun same => ?_) fun condition => settled condition.2.1
          exact head?_statements_of_open first uncut (Int.not_le.mp settled)
            (head?_lines_spaced others more) (begin' same)
    · refine iff_of_false (fun same => ?_) fun condition => uncut condition.1.1.1
      obtain ⟨rest, starts⟩ : ∃ rest, lines (spaced (text :: texts)) = lines text ++ rest := by
        by_cases more : texts = []
        · exact ⟨[], by rw [more, List.append_nil]; rfl⟩
        · exact ⟨_, by rw [spaced_cons more, first.lines_append]⟩
      exact head?_statements_of_not_isUncut first uncut starts (begin' same)

/-! ### Complete statements -/

/-- Whether a text is a statement that a semicolon closes at the end of the first row behind which
its brackets are closed. -/
structure IsTerminated (text : Text) : Prop where
  begins : text.head?.any (!isBlank ·) = true
  goesOn : ∀ count < (lines text).length, 0 < count → 0 < depthBehind ((lines text).take count)
  settles : depthBehind (lines text) = 0
  ends : text.getLast? = some ';'

/-- Markup: texts and elements, one behind the other. An element closes itself or stands between its
opening and its closing tag. -/
inductive Markup where
  | done
  | text (chars : Text) (behind : Markup)
  | single (name attributes : Text) (behind : Markup)
  | pair (name attributes : Text) (children behind : Markup)

/-- Markup as it is written. -/
def Markup.shown : Markup → Text
  | .done => []
  | .text chars behind => chars ++ behind.shown
  | .single name attributes behind =>
    '<' :: name ++ attributes ++ ['/', '>'] ++ behind.shown
  | .pair name attributes children behind =>
    '<' :: name ++ attributes ++ ['>'] ++ children.shown ++ '<' :: '/' :: name ++ ['>'] ++
      behind.shown

/-- Whether a text is one element, with all that it holds. -/
def IsElement (text : Text) : Prop :=
  ∃ name attributes, text = (Markup.single name attributes .done).shown ∨
    ∃ children, text = (Markup.pair name attributes children .done).shown

theorem IsTerminated.isTrimmed (terminated : IsTerminated text) : IsTrimmed text :=
  ⟨terminated.begins, by rw [terminated.ends]; rfl⟩

theorem IsElement.isTrimmed (element : IsElement text) : IsTrimmed text := by
  obtain ⟨name, attributes, rfl | ⟨children, rfl⟩⟩ := element
  · refine ⟨rfl, ?_⟩
    rw [Markup.shown, Markup.shown, List.append_nil, List.getLast?_append]
    rfl
  · refine ⟨rfl, ?_⟩
    rw [Markup.shown, Markup.shown, List.append_nil, List.getLast?_concat]
    rfl

/-- While its brackets are open, a statement is not cut off. -/
theorem IsTerminated.isUncut (terminated : IsTerminated text) : IsUncut text :=
  fun count bound positive cut =>
    absurd (terminated.goesOn count bound positive) (Int.not_lt.mpr cut.1)

/-- Newlines in front of code are no statement. -/
theorem statements_newlines (count : Nat) (code : Text) :
    statements (List.replicate count '\n' ++ code) = statements code := by
  induction count with
  | zero => rfl
  | succ count inductionHypothesis =>
    rw [List.replicate_succ, List.cons_append, ← inductionHypothesis, statements, lines_newline]
    rfl

/-- Complete statements that are joined by blank lines are what the code is split into exactly if
their only line breaks are newlines, no element among them is cut off before its end, and none but
the last leaves brackets open. If they are, then each of them is inserted as a whole. -/
theorem split_undoes_spacing_iff
    (complete : ∀ text ∈ texts, IsTerminated text ∨ IsElement text) :
    (statements (spaced texts) = texts ↔
        (∀ text ∈ texts, joinLines (lines text) = text) ∧
          (∀ text ∈ texts, IsElement text → IsUncut text) ∧
            ∀ text ∈ texts.dropLast, IsElement text → depthBehind (lines text) ≤ 0) ∧
      (statements (spaced texts) = texts →
        ∀ (setup : Setup) (hint code words : Text) (target : Option Path) (count : Nat),
          withoutImports code = List.replicate count '\n' ++ spaced texts →
            ∃ path isEntityPage, setup.codeEdits hint code words target =
              (imports code).map (.insert path · .importStatement) ++
                Setup.statementEdits path isEntityPage texts) := by
  have trimmed (text : Text) (member : text ∈ texts) : IsTrimmed text :=
    (complete text member).elim IsTerminated.isTrimmed IsElement.isTrimmed
  refine ⟨?_, fun undone setup hint code words target count left => ?_⟩
  · rw [statements_spaced_iff trimmed]
    constructor
    · rintro ⟨whole, settled⟩
      exact ⟨fun text member => (whole text member).2, fun text member _ => (whole text member).1,
        fun text member _ => settled text member⟩
    · rintro ⟨newlines, uncut, settled⟩
      refine ⟨fun text member => ⟨?_, newlines text member⟩, fun text member => ?_⟩
      · exact (complete text member).elim IsTerminated.isUncut (uncut text member)
      · rcases complete text (List.dropLast_subset texts member) with terminated | element
        · exact Int.le_of_eq terminated.settles
        · exact settled text member element
  · refine ⟨target.getD (setup.pathOf (Executor.roleOfCode hint code words)),
      target.isNone && Executor.roleOfCode hint code words = .entityPage, ?_⟩
    rw [Setup.codeEdits, left, statements_newlines, undone]

/-- A constant over several rows, an element that closes itself behind one that stands in its
attributes, and an element with another one in it. -/
def statementsInOrder : List Text :=
  ["const a = f(\x7b\n  b,\n\x7d);".toList,
    "<Route path='/a' element=\x7b\n  <Page />\n\x7d />".toList,
    "<Grid><Card /></Grid>".toList]

theorem split_undoes_spacing_in_order :
    (∀ text ∈ statementsInOrder, IsTerminated text ∨ IsElement text) ∧
      statements (spaced statementsInOrder) = statementsInOrder ∧
      ∃ path isEntityPage, Setup.codeEdits ⟨{}, .ofText "app".toList, true⟩ []
          (spaced statementsInOrder) [] none =
        (imports (spaced statementsInOrder)).map (.insert path · .importStatement) ++
          Setup.statementEdits path isEntityPage statementsInOrder := by
  have complete : ∀ text ∈ statementsInOrder, IsTerminated text ∨ IsElement text := by
    refine List.forall_mem_cons.mpr ⟨.inl ⟨by decide, by decide, by decide, by decide⟩,
      List.forall_mem_cons.mpr ⟨.inr ?_, List.forall_mem_singleton.mpr (.inr ?_)⟩⟩
    · exact ⟨"Route".toList, " path='/a' element=\x7b\n  <Page />\n\x7d ".toList, .inl (by decide)⟩
    · exact ⟨"Grid".toList, [], .inr ⟨.single "Card".toList [' '] .done, by decide⟩⟩
  obtain ⟨undone, inserted⟩ := split_undoes_spacing_iff complete
  have undone : statements (spaced statementsInOrder) = statementsInOrder :=
    undone.mpr ⟨by decide, fun text member _ => (by decide : ∀ text ∈ statementsInOrder,
      IsUncut text) text member, fun text member _ => (by decide : ∀ text ∈
        statementsInOrder.dropLast, depthBehind (lines text) ≤ 0) text member⟩
  exact ⟨complete, undone, inserted undone _ _ _ _ none 0 (by decide)⟩

/-- An element with another one in it, each tag in a row of its own. -/
def elementInRows : Text :=
  "<EntityLayout.Route path='/jira' title='Jira'>\n  <JiraContent />\n</EntityLayout.Route>".toList

/-- An element in rows is torn into its tags and what stands between them, and each of these is
inserted by itself. -/
theorem split_tears_element :
    IsElement elementInRows ∧
      statements (spaced [elementInRows]) =
        ["<EntityLayout.Route path='/jira' title='Jira'>".toList, "<JiraContent />".toList,
          "</EntityLayout.Route>".toList] ∧
      Setup.codeEdits ⟨{}, .ofText "app".toList, true⟩ [] (spaced [elementInRows]) [] none =
        [.insert (.ofText "app/packages/app/src/components/catalog/EntityPage.tsx".toList)
            "<EntityLayout.Route path='/jira' title='Jira'>".toList .serviceRoute,
          .insert (.ofText "app/packages/app/src/components/catalog/EntityPage.tsx".toList)
            "<JiraContent />".toList .overviewComponent,
          .insert (.ofText "app/packages/app/src/components/catalog/EntityPage.tsx".toList)
            "</EntityLayout.Route>".toList .overviewComponent] := by
  refine ⟨⟨"EntityLayout.Route".toList, " path='/jira' title='Jira'".toList, .inr
    ⟨.text "\n  ".toList (.single "JiraContent".toList [' '] (.text ['\n'] .done)), by decide⟩⟩,
    by decide, by decide⟩

/-! ### The rows of statements -/

variable {opened : List Text} {groups : List (List Text)}

/-- Whether rows are those of statements, in order, and blank rows between them: each statement but
the last one ends behind the first of its rows behind which it is cut off. -/
inductive FallsInto : List Text → List (List Text) → Prop
  | nil : FallsInto [] []
  | blank {row : Text} {rows : List Text} {groups : List (List Text)}
      (blank : isBlankText row = true) (behind : FallsInto rows groups) :
      FallsInto (row :: rows) groups
  | ended {group rows : List Text} {groups : List (List Text)}
      (begins : group.head?.any (!isBlankText ·) = true)
      (goesOn : ∀ count < group.length, 0 < count → ¬ IsCut (group.take count))
      (ends : IsCut group) (behind : FallsInto rows groups) :
      FallsInto (group ++ rows) (group :: groups)
  | unended {group : List Text} (begins : group.head?.any (!isBlankText ·) = true)
      (goesOn : ∀ count ≤ group.length, 0 < count → ¬ IsCut (group.take count)) :
      FallsInto group [group]

namespace FallsInto

/-- The first row of a statement is not blank. -/
theorem begins (falls : FallsInto rows groups) {group : List Text} (member : group ∈ groups) :
    group.head?.any (!isBlankText ·) = true := by
  induction falls with
  | nil => cases member
  | blank _ _ inductionHypothesis => exact inductionHypothesis member
  | ended begins _ _ _ inductionHypothesis =>
    rcases List.mem_cons.mp member with rfl | behind
    · exact begins
    · exact inductionHypothesis behind
  | unended begins => exact List.mem_singleton.mp member ▸ begins

/-- The statements have the solid rows of the rows that fall into them. -/
theorem flatMap_solidRows (falls : FallsInto rows groups) :
    groups.flatMap (fun group => group.flatMap solidRows) = rows.flatMap solidRows := by
  induction falls with
  | nil => rfl
  | blank blank _ inductionHypothesis =>
    rw [List.flatMap_cons, solidRows_of_isBlankText blank, inductionHypothesis, List.nil_append]
  | ended _ _ _ _ inductionHypothesis =>
    rw [List.flatMap_cons, List.flatMap_append, inductionHypothesis]
  | unended => exact List.append_nil _

end FallsInto

/-- Rows that are open, none of them the end of a statement, and those behind them fall into the
statements that are found from there on. -/
theorem fallsInto_statementsFrom
    (begins : opened = [] ∨ opened.head?.any (!isBlankText ·) = true)
    (goesOn : ∀ count ≤ opened.length, 0 < count → ¬ IsCut (opened.take count))
    (rows : List Text) :
    FallsInto (opened ++ rows) (statementsFrom opened.reverse (depthBehind opened) rows) := by
  induction rows generalizing opened with
  | nil =>
    rw [List.append_nil, statementsFrom, List.reverse_reverse]
    rcases begins with rfl | begins
    · exact .nil
    · have some' : ¬ opened.reverse.isEmpty = true := by
        rw [List.isEmpty_reverse]
        cases opened with
        | nil => exact absurd begins Bool.false_ne_true
        | cons first opened => exact Bool.false_ne_true
      rw [if_neg some']
      exact .unended begins goesOn
  | cons row rows inductionHypothesis =>
    by_cases skipped : opened = [] ∧ isBlankText row = true
    · obtain ⟨rfl, blank⟩ := skipped
      have further : statementsFrom [] 0 (row :: rows) = statementsFrom [] 0 rows := by
        rw [statementsFrom, blank]
        rfl
      refine .blank blank ?_
      show FallsInto rows (statementsFrom [] 0 (row :: rows))
      rw [further]
      exact inductionHypothesis (.inl rfl) goesOn
    · have taken : opened.reverse ≠ [] ∨ isBlankText row = false := by
        rw [Ne, List.reverse_eq_nil_iff, ← Bool.not_eq_true]
        exact Decidable.not_and_iff_not_or_not.mp skipped
      have longer : (opened ++ [row]).head?.any (!isBlankText ·) = true := by
        rcases begins with rfl | begins
        · simpa using taken
        · exact any_head?_append begins [row]
      have step := statementsFrom_cons taken rows
      rw [List.reverse_reverse, List.reverse_cons, List.reverse_reverse] at step
      have goesOn' : ∀ count < (opened ++ [row]).length, 0 < count →
          ¬ IsCut ((opened ++ [row]).take count) := by
        intro count bound positive
        rw [List.length_append, List.length_singleton] at bound
        rw [List.take_append_of_le_length (Nat.le_of_lt_succ bound)]
        exact goesOn count (Nat.le_of_lt_succ bound) positive
      rw [step, List.append_cons]
      split
      · rename_i cut
        exact .ended longer goesOn' cut (inductionHypothesis (.inl rfl) (by simp))
      · rename_i uncut
        have next := @inductionHypothesis (opened ++ [row]) (.inr longer)
          fun count bound positive =>
            (Nat.lt_or_eq_of_le bound).elim (goesOn' count · positive) fun all => by
              rwa [all, List.take_length]
        rwa [List.reverse_append] at next

/-- The statements of a piece of code: its rows fall into them and into blank rows between them,
where every statement but the last one ends behind the first of its rows behind which no bracket is
open and that is blank or ends like a statement; the rows of the statements that are not blank,
without the blanks around them, are those of the code, in order; and no statement is empty. -/
theorem statements_keep_rows (code : Text) :
    (∃ groups, FallsInto (lines code) groups ∧
      statements code = groups.map fun rows => trim (joinLines rows)) ∧
    (statements code).flatMap (fun statement => solid (lines statement)) = solid (lines code) ∧
    ∀ statement ∈ statements code, statement ≠ [] := by
  have falls : FallsInto (lines code) (statementsFrom [] 0 (lines code)) :=
    @fallsInto_statementsFrom [] (.inl rfl) (by simp) (lines code)
  have written : ∀ statement ∈ (statementsFrom [] 0 (lines code)).map fun rows =>
      trim (joinLines rows), statement ≠ [] := by
    intro statement member
    obtain ⟨group, among, rfl⟩ := List.mem_map.mp member
    exact trim_joinLines_ne_nil (falls.begins among)
  have all : statements code =
      (statementsFrom [] 0 (lines code)).map fun rows => trim (joinLines rows) :=
    List.filter_eq_self.mpr fun statement member => by simpa using written statement member
  refine ⟨⟨_, falls, all⟩, ?_, all ▸ written⟩
  calc (statements code).flatMap (fun statement => solid (lines statement))
      = (statementsFrom [] 0 (lines code)).flatMap fun group => group.flatMap solidRows := by
        rw [all, List.flatMap_map]
        refine congrArg (List.flatMap · _) (funext fun group => ?_)
        rw [solid_lines, trim, solidRows_trimWhile (fun _ => id), solidRows_joinLines]
    _ = (lines code).flatMap solidRows := falls.flatMap_solidRows
    _ = solid (lines code) := by rw [flatMap_lines, solid_lines]

end Code

end GuidedMigration
