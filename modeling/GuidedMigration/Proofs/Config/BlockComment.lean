/-
This file says which comments of a block are inert. A comment on a line of its own always is, where
it is indented like the line behind it. A comment behind a line is if the line takes one; then the
whole block is read as before, with the same value or the same fault.

What a line does to the stack depends on its own text and, through the line behind it, on how far
that line is indented and whether it is an item. So one line of a block can be exchanged for another
that does the same and shows the same to the line before it.
-/
import GuidedMigration.Proofs.Config.BlockLine
import GuidedMigration.Proofs.Yaml.Keyed

namespace GuidedMigration.Config.Block

open Text

variable {indent number other : Nat} {key tail text row : Text} {next later : Option Line}
  {line second : Line} {above below : List Text}

/-! ### Steps -/

/-- What a line shows of itself to the line before it. -/
def Line.shape (line : Line) : Nat × Bool := (line.indent, isItem line.text)

theorem assign_of_shape (same : next.map Line.shape = later.map Line.shape) (stack : Stack)
    (key : Text) (value : Option Text) (indent : Nat) :
    stack.assign key value next indent = stack.assign key value later indent := by
  cases next with
  | none =>
    cases later with
    | none => rfl
    | some line => cases same
  | some first =>
    cases later with
    | none => cases same
    | some line =>
      obtain ⟨deep, item⟩ := Prod.mk.inj (Option.some.inj same)
      simp only [Stack.assign, deep, item]

theorem step_of_shape (same : next.map Line.shape = later.map Line.shape) (stack : Stack)
    (line : Line) : stack.step line next = stack.step line later := by
  simp only [Stack.step, Stack.readItem, Stack.readEntry, assign_of_shape same]

/-- Lines that do the same and show the same can be exchanged. -/
theorem run_exchange (line second : Line) (shape : second.shape = line.shape)
    (step : ∀ (stack : Stack) next, stack.step second next = stack.step line next)
    (above below : List Line) (stack : Stack) :
    stack.run (above ++ second :: below) = stack.run (above ++ line :: below) := by
  induction above generalizing stack with
  | nil => rw [List.nil_append, List.nil_append, Stack.run, Stack.run, step]
  | cons first above inductionHypothesis =>
    have shows : ((above ++ second :: below).head?).map Line.shape =
        ((above ++ line :: below).head?).map Line.shape := by
      cases above with
      | nil => exact congrArg some shape
      | cons next above => rfl
    rw [List.cons_append, List.cons_append, Stack.run, Stack.run, step_of_shape shows]
    exact congrArg _ (funext inductionHypothesis)

/-! ### Numbers of lines -/

/-- A line without its number. -/
def Line.content (line : Line) : Nat × Text := (line.indent, line.text)

/-- The number of a line matters for its faults only. -/
theorem step_of_content (same : second.content = line.content) (stack result : Stack)
    (next : Option Line) :
    stack.step second next = .ok result ↔ stack.step line next = .ok result := by
  obtain ⟨indent, text, number⟩ := line
  obtain ⟨otherIndent, otherText, other⟩ := second
  obtain ⟨rfl, rfl⟩ := Prod.mk.inj same
  simp only [Stack.step, Stack.readItem, Stack.readEntry]
  split
  · simp
  split
  · split
    · simp
    · split
      · simp
      · rfl
  · split
    · simp
    · split
      · simp
      · rfl

theorem run_of_content {lines others : List Line}
    (same : others.map Line.content = lines.map Line.content) (stack result : Stack) :
    stack.run others = .ok result ↔ stack.run lines = .ok result := by
  induction lines generalizing others stack with
  | nil => rw [List.map_eq_nil_iff.mp same]
  | cons line lines inductionHypothesis =>
    obtain ⟨second, others, rfl⟩ := List.exists_cons_of_ne_nil
      (show others ≠ [] by rintro rfl; cases same)
    rw [List.map_cons, List.map_cons, List.cons.injEq] at same
    have shapeOf (line : Line) : line.shape = (line.content.1, isItem line.content.2) := rfl
    have shows : others.head?.map Line.shape = lines.head?.map Line.shape := by
      have heads := congrArg List.head? same.2
      rw [List.head?_map, List.head?_map] at heads
      have shapes := congrArg (Option.map fun content => (content.1, isItem content.2)) heads
      rwa [Option.map_map, Option.map_map] at shapes
    rw [Stack.run, Stack.run, step_of_shape shows, bind_ok_iff, bind_ok_iff]
    exact exists_congr fun next =>
      and_congr (step_of_content same.1 stack next _) (inductionHypothesis same.2 next)

/-! ### Rows -/

/-- The mapping that the whole stack writes. -/
def written (stack : Stack) : Except BlockError Mapping :=
  match stack.finish with
  | .map entries => .ok entries
  | _ => .ok []

/-- The mapping that the rows of a block write. -/
def readRows (rows : List Text) : Except BlockError Mapping :=
  linesFrom 1 rows >>= fun lines => Stack.start.run lines >>= written

theorem readBlock_eq (text : Text) : readBlock text = readRows (lines (dedent text)) := rfl

/-- Rows with lines of the same content write the same. -/
theorem readRows_of_content {rows others : List Text} {fragment : Mapping}
    (same : ∀ lines, linesFrom 1 rows = .ok lines → ∃ again, linesFrom 1 others = .ok again ∧
      again.map Line.content = lines.map Line.content)
    (read : readRows rows = .ok fragment) : readRows others = .ok fragment := by
  rw [readRows, bind_ok_iff] at read ⊢
  obtain ⟨lines, found, further⟩ := read
  obtain ⟨again, foundAgain, contents⟩ := same lines found
  rw [bind_ok_iff] at further
  obtain ⟨stack, run, outcome⟩ := further
  exact ⟨again, foundAgain,
    bind_ok_iff.mpr ⟨stack, (run_of_content contents _ _).mpr run, outcome⟩⟩

theorem linesFrom_append (number : Nat) (above rows : List Text) :
    linesFrom number (above ++ rows) =
      linesFrom number above >>= fun first =>
        linesFrom (number + above.length) rows >>= fun second => .ok (first ++ second) := by
  induction above generalizing number with
  | nil => cases found : linesFrom number rows <;> simp [found, linesFrom, bind, Except.bind]
  | cons row above inductionHypothesis =>
    have behind : number + (row :: above).length = number + 1 + above.length := by
      rw [List.length_cons]
      omega
    rw [List.cons_append, linesFrom, linesFrom, inductionHypothesis, behind]
    cases lineOf? row number with
    | error fault => rfl
    | ok line =>
      cases linesFrom (number + 1) above with
      | error fault => rfl
      | ok first =>
        cases linesFrom (number + 1 + above.length) rows with
        | error fault => rfl
        | ok second => simp [bind, Except.bind]

theorem lineOf?_renumber {found : Option Line} (read : lineOf? row number = .ok found)
    (other : Nat) :
    ∃ again, lineOf? row other = .ok again ∧ again.map Line.content = found.map Line.content := by
  simp only [lineOf?] at read ⊢
  split at read
  · rename_i skipped
    rw [if_pos skipped]
    exact ⟨none, rfl, by rw [← Except.ok.inj read]⟩
  · rename_i counts
    rw [if_neg counts]
    split at read
    · cases read
    · rename_i noTab
      rw [if_neg noTab]
      exact ⟨_, rfl, by rw [← Except.ok.inj read]; rfl⟩

/-- Rows count from any number on. -/
theorem linesFrom_renumber {lines : List Line} {rows : List Text}
    (found : linesFrom number rows = .ok lines) (other : Nat) :
    ∃ others, linesFrom other rows = .ok others ∧
      others.map Line.content = lines.map Line.content := by
  induction rows generalizing number other lines with
  | nil => exact ⟨[], rfl, by rw [← Except.ok.inj found]⟩
  | cons row rows inductionHypothesis =>
    rw [linesFrom, bind_ok_iff] at found
    obtain ⟨line?, read, further⟩ := found
    rw [bind_ok_iff] at further
    obtain ⟨rest, readRest, same⟩ := further
    obtain ⟨again, readAgain, sameLine⟩ := lineOf?_renumber read other
    obtain ⟨others, readOthers, sameRest⟩ := inductionHypothesis readRest (other + 1)
    refine ⟨again.toList ++ others, ?_, ?_⟩
    · rw [linesFrom, readAgain, readOthers]
      rfl
    · rw [← Except.ok.inj same, List.map_append, List.map_append, sameRest]
      have lists := congrArg Option.toList sameLine
      rw [Option.toList_map, Option.toList_map] at lists
      rw [lists]

theorem lineOf?_append (solid' : isBlankText row = false)
    (counts : (trimLeft row).head? ≠ some '#') (number : Nat) (tail : Text) :
    (∃ fault, lineOf? row number = .error fault ∧ lineOf? (row ++ tail) number = .error fault) ∨
      ∃ indent, lineOf? row number = .ok (some ⟨indent, trim row, number⟩) ∧
        lineOf? (row ++ tail) number = .ok (some ⟨indent, trim (row ++ tail), number⟩) := by
  have sameIndent : indentOf (row ++ tail) = indentOf row :=
    takeWhile_append_of_all (fun _ blank => blank) solid' tail
  have spaces : (row ++ tail).takeWhile (· = ' ') = row.takeWhile (· = ' ') :=
    takeWhile_append_of_all (fun char space => by rw [of_decide_eq_true space]; decide)
      solid' tail
  have written : trimLeft row ≠ [] := by
    intro none'
    have cut : row.takeWhile isBlank ++ trimLeft row = row := List.takeWhile_append_dropWhile
    rw [none', List.append_nil] at cut
    rw [isBlankText, ← cut, List.all_takeWhile] at solid'
    cases solid'
  obtain ⟨first, body, cons⟩ := List.exists_cons_of_ne_nil written
  rw [cons, List.head?_cons, Ne, Option.some.injEq] at counts
  simp only [lineOf?, trimLeft_append solid', cons, List.cons_append, List.isEmpty_cons,
    List.head?_cons, Option.some.injEq, counts, sameIndent, spaces, decide_false, Bool.or_false,
    Bool.false_eq_true, if_false]
  split
  · exact Or.inl ⟨_, rfl, rfl⟩
  · exact Or.inr ⟨_, rfl, rfl⟩

/-- A row that is a comment is passed over. -/
theorem lineOf?_comment {lead : Text} (blank : isBlankText lead = true) (comment : Text) :
    lineOf? (lead ++ '#' :: comment) number = .ok none := by
  have hash : trimLeft (lead ++ '#' :: comment) = '#' :: comment :=
    trimLeft_append_blank blank _
  simp [lineOf?, hash]

/-- A comment behind a row that takes one changes nothing. -/
theorem readRows_append (comment : IsComment tail) (solid' : isBlankText row = false)
    (counts : (trimLeft row).head? ≠ some '#') (takes : takesComment (trim row) = true) :
    readRows (above ++ (row ++ tail) :: below) = readRows (above ++ row :: below) := by
  have trimmed := isTrimmed_trim (trim_ne_nil solid')
  obtain ⟨rest, restComment, longer⟩ := comment.exists_trim solid'
  rw [readRows, readRows, linesFrom_append, linesFrom_append, linesFrom, linesFrom]
  rcases lineOf?_append solid' counts (1 + above.length) tail with
    ⟨fault, read, readLonger⟩ | ⟨indent, read, readLonger⟩
  · rw [read, readLonger]
  · rw [read, readLonger, longer]
    cases linesFrom 1 above with
    | error fault => rfl
    | ok first =>
      cases linesFrom (1 + above.length + 1) below with
      | error fault => rfl
      | ok second =>
        have sameItem := isItem_append restComment trimmed (ne_mark_of_takesComment takes)
        have exchanged := run_exchange ⟨indent, trim row, 1 + above.length⟩
          ⟨indent, trim row ++ rest, 1 + above.length⟩ (Prod.ext rfl sameItem)
          (fun stack next => step_append restComment trimmed takes) first second Stack.start
        exact congrArg (· >>= written) exchanged

/-- A row that is a comment changes nothing but the numbers of the lines. -/
theorem readRows_comment {lead comment : Text} (blank : isBlankText lead = true)
    (above below : List Text) (fragment : Mapping) :
    readRows (above ++ (lead ++ '#' :: comment) :: below) = .ok fragment ↔
      readRows (above ++ below) = .ok fragment := by
  have passed (number : Nat) : linesFrom number ((lead ++ '#' :: comment) :: below) =
      linesFrom (number + 1) below := by
    rw [linesFrom, lineOf?_comment blank]
    cases linesFrom (number + 1) below <;> rfl
  have moved (number other : Nat) (lines : List Line)
      (found : (linesFrom 1 above >>= fun first => linesFrom number below >>= fun second =>
        .ok (first ++ second)) = .ok lines) :
      ∃ again, (linesFrom 1 above >>= fun first => linesFrom other below >>= fun second =>
          .ok (first ++ second)) = .ok again ∧
        again.map Line.content = lines.map Line.content := by
    obtain ⟨first, foundFirst, further⟩ := bind_ok_iff.mp found
    obtain ⟨second, foundSecond, same⟩ := bind_ok_iff.mp further
    obtain ⟨again, foundAgain, contents⟩ := linesFrom_renumber foundSecond other
    refine ⟨first ++ again, ?_, ?_⟩
    · rw [foundFirst, foundAgain]
      rfl
    · rw [← Except.ok.inj same, List.map_append, List.map_append, contents]
  constructor
  · refine readRows_of_content fun lines found => ?_
    rw [linesFrom_append, passed] at found
    rw [linesFrom_append]
    exact moved _ _ lines found
  · refine readRows_of_content fun lines found => ?_
    rw [linesFrom_append] at found
    rw [linesFrom_append, passed]
    exact moved _ _ lines found

/-! ### Comments -/

/-- The comments of a block in which a row that is not blank stands between line breaks. With a
comment behind the row, the block is read as without it, if the row takes comments; and a row that
takes none does not do to any stack what it does without the comment. A comment on a line of its own
that is indented like the row, and ends as the lines in front of it do, leaves what the block writes
as it is. -/
theorem readBlock_commented {before row after comment : Text} (opens : EndsLine before)
    (unbroken : isUnbroken row = true) (solid' : isBlankText row = false)
    (closes : after.head?.all isLineBreak = true) (commentUnbroken : isUnbroken comment = true) :
    ((trimLeft row).head? ≠ some '#' → takesComment (trim row) = true →
      readBlock (before ++ (row ++ (" # ".toList ++ comment ++ after))) =
        readBlock (before ++ (row ++ after))) ∧
    (∀ indent number next stack result,
      Stack.step ⟨indent, trim row, number⟩ next stack = .ok result →
        (Stack.step ⟨indent, trim (row ++ (" # ".toList ++ comment)), number⟩ next stack =
            .ok result ↔ takesComment (trim row) = true)) ∧
    ∀ mark fragment, isLineBreak mark = true →
      (mark = '\n' ↔ before = [] ∨ before.getLast? = some '\n') →
        (readBlock (before ++ (indentOf row ++ '#' :: comment ++ mark :: (row ++ after))) =
            .ok fragment ↔
          readBlock (before ++ (row ++ after)) = .ok fragment) := by
  have behind : IsComment (" # ".toList ++ comment) := ⟨[], ' ' :: comment, rfl, rfl⟩
  obtain ⟨above, below, tabs, left, rfl, spaces, longer, headed⟩ :=
    exists_lines_dedent opens unbroken solid' closes
  have tabsBlank := isBlankText_of_all_isSpaceOrTab spaces
  have leftSolid : isBlankText left = false := by
    rwa [isBlankText_append, tabsBlank, Bool.true_and] at solid'
  have sameTrim : trim (tabs ++ left) = trim left := trim_append_left tabsBlank left
  have plain : readBlock (before ++ (tabs ++ left ++ after)) =
      readRows (above ++ left :: below) := by
    have lines' := longer [] rfl
    rw [List.nil_append, List.append_nil] at lines'
    rw [readBlock_eq, lines']
  refine ⟨fun counts takes => ?_, fun indent number next stack result read => ?_,
    fun mark fragment breaks newline => ?_⟩
  · have tailUnbroken : isUnbroken (" # ".toList ++ comment) = true := by
      rw [isUnbroken_append, commentUnbroken]
      decide
    rw [trimLeft_append_blank tabsBlank] at counts
    rw [sameTrim] at takes
    rw [plain, readBlock_eq, longer _ tailUnbroken]
    exact readRows_append behind leftSolid counts takes
  · have trimmed := isTrimmed_trim (trim_ne_nil solid')
    obtain ⟨rest, restComment, commented⟩ := behind.exists_trim solid'
    rw [commented]
    cases takes : takesComment (trim (tabs ++ left)) with
    | true => exact iff_of_true ((step_append restComment trimmed takes).trans read) rfl
    | false =>
      exact iff_of_false (step_append_ne restComment trimmed takes read) Bool.false_ne_true
  · have noteUnbroken : isUnbroken ('#' :: comment) = true := by
      rw [isUnbroken, List.all_cons, ← isUnbroken, commentUnbroken]
      decide
    obtain ⟨lead, blank, lines'⟩ := headed ('#' :: comment) mark noteUnbroken rfl breaks newline
    rw [plain, readBlock_eq, lines']
    exact readRows_comment blank above (left :: below) fragment

/-- A comment behind a nested value, and one on a line of its own in front of it. -/
theorem readBlock_commented_in_mapping :
    readBlock "a:\n  b: 1 # c\n".toList = readBlock "a:\n  b: 1\n".toList ∧
      (readBlock "a:\n  #c\n  b: 1\n".toList =
          .ok [(.text "a".toList, .map [(.text "b".toList, .int 1)])] ↔
        readBlock "a:\n  b: 1\n".toList =
          .ok [(.text "a".toList, .map [(.text "b".toList, .int 1)])]) := by
  have inert := @readBlock_commented "a:\n".toList "  b: 1".toList "\n".toList "c".toList
    (Or.inr (by decide)) (by decide) (by decide) (by decide) (by decide)
  exact ⟨inert.1 (by decide) (by decide), inert.2.2 '\n' _ (by decide) (by decide)⟩

/-- A comment behind a key is read as its value, and one behind a value in quotes as a part of
it. -/
theorem readBlock_reads_comment :
    readBlock "a: # c\n".toList = .ok [(.text "a".toList, .text "# c".toList)] ∧
      readBlock "a:\n".toList = .ok [(.text "a".toList, .null)] ∧
      readBlock "a: \"x\" # c\n".toList = .ok [(.text "a".toList, .text "\"x\" # c".toList)] ∧
      readBlock "a: \"x\"\n".toList = .ok [(.text "a".toList, .text "x".toList)] :=
  ⟨rfl, rfl, rfl, rfl⟩

end GuidedMigration.Config.Block
