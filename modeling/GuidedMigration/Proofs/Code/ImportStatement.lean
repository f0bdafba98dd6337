/-
This file compares the two walks that look for import statements. The one reads a piece of code and
collects the rows of a statement until it ends; the other one goes through the rows of a file and
keeps the indices at which a statement starts and ends. They go in step: whatever rows have been
read, the open statement of the one is what stands in the file from the first index of the other
on. So the statements of a piece of code are the rows of the ranges that the search for a place
finds in it, and an empty row that cutting at newlines leaves at the end adds none.
-/
import GuidedMigration.Proofs.Code.ImportScan
import GuidedMigration.Proofs.Text.Lines

namespace GuidedMigration.Code

open Text

variable {row : Text} {rows upper opened : List Text} {range : Nat × Nat}

/-- The rows of a range, its first and its last one among them. -/
def rowsOf (rows : List Text) (range : Nat × Nat) : List Text :=
  (rows.drop range.1).take (range.2 + 1 - range.1)

/-- The text of an import statement that takes rows: no blanks at their ends nor around them all. -/
def statementText (rows : List Text) : Text := trim (joinLines (rows.map trimRight))

/-- The index at which rows start that stand behind other ones, if there are any. -/
def startBehind (upper opened : List Text) : Option Nat := opened.head?.map fun _ => upper.length

/-! ### The two walks side by side -/

theorem isNone_startBehind : (startBehind upper opened).isNone = opened.isEmpty := by
  cases opened <;> rfl

theorem startBehind_getD : (startBehind upper opened).getD (upper ++ opened).length =
    upper.length := by
  cases opened with
  | nil => rw [List.append_nil]; rfl
  | cons first opened => rfl

theorem startBehind_concat : startBehind upper (opened ++ [row]) = some upper.length := by
  cases opened <;> rfl

theorem rowsOf_opened :
    rowsOf (upper ++ opened ++ row :: rows) (upper.length, (upper ++ opened).length) =
      opened ++ [row] := by
  have size : (upper ++ opened).length + 1 - upper.length = (opened ++ [row]).length := by
    rw [List.length_append, List.length_append, List.length_singleton]
    omega
  have split : upper ++ opened ++ row :: rows = upper ++ ((opened ++ [row]) ++ rows) := by simp
  rw [rowsOf, size, split, List.drop_left, List.take_left]

/-- While rows are read, the statement that is open stands in the file from the index on at which
it starts; so the statements found are the rows of the ranges found. -/
theorem importsFrom_eq (upper opened rows : List Text) :
    importsFrom opened.reverse rows =
      (importRangesFrom (upper ++ opened).length (startBehind upper opened) rows).map
        (rowsOf (upper ++ opened ++ rows)) := by
  induction rows generalizing upper opened with
  | nil => rfl
  | cons row rows inductionHypothesis =>
    have further (above : List Text) : above.length + 1 = (above ++ [row]).length := by simp
    have whole (above : List Text) : above ++ row :: rows = (above ++ [row]) ++ rows := by simp
    rw [importsFrom, importRangesFrom, isNone_startBehind, List.isEmpty_reverse]
    split
    · rename_i outside
      -- No statement is open, and the row starts none.
      obtain rfl : opened = [] := by
        rw [Bool.and_eq_true, List.isEmpty_iff] at outside
        exact outside.1
      have behind := inductionHypothesis (upper ++ [row]) []
      rw [List.append_nil] at behind ⊢
      rw [further, whole]
      exact behind
    · dsimp only
      rw [startBehind_getD]
      split
      · have behind := inductionHypothesis (upper ++ opened ++ [row]) []
        rw [List.append_nil] at behind
        rw [List.map_cons, rowsOf_opened, List.reverse_cons, List.reverse_reverse, further, whole]
        exact congrArg _ behind
      · have behind := inductionHypothesis upper (opened ++ [row])
        rw [List.reverse_append, List.reverse_singleton, List.singleton_append,
          startBehind_concat, ← List.append_assoc] at behind
        rw [further, whole]
        exact behind

/-- A range lies among the rows that were read. -/
theorem bounds_of_mem_importRangesFrom {index : Nat} {start : Option Nat}
    (before : ∀ first ∈ start, first ≤ index) (member : range ∈ importRangesFrom index start rows) :
    range.1 ≤ range.2 ∧ range.2 < index + rows.length := by
  induction rows generalizing index start with
  | nil => simp [importRangesFrom] at member
  | cons row rows inductionHypothesis =>
    have first : start.getD index ≤ index := by
      cases start with
      | none => exact Nat.le_refl index
      | some first => exact before first rfl
    have behind {start : Option Nat} (before : ∀ first ∈ start, first ≤ index + 1)
        (member : range ∈ importRangesFrom (index + 1) start rows) :
        range.1 ≤ range.2 ∧ range.2 < index + (row :: rows).length := by
      have bounds := inductionHypothesis before member
      rw [List.length_cons]
      omega
    rw [importRangesFrom] at member
    split at member
    · exact behind (by simp) member
    · split at member
      · rcases List.mem_cons.mp member with rfl | member
        · exact ⟨first, by simp⟩
        · exact behind (by simp) member
      · exact behind (by simpa using Nat.le_succ_of_le first) member

/-! ### Rows of code -/

/-- An empty row at the end belongs to no statement. -/
theorem importsFrom_concat_nil (current rows : List Text) :
    importsFrom current (rows ++ [[]]) = importsFrom current rows := by
  induction rows generalizing current with
  | nil =>
    have open' : endsImport [] = false := by decide
    simp [importsFrom, open']
  | cons row rows inductionHypothesis =>
    rw [List.cons_append, importsFrom, importsFrom, inductionHypothesis, inductionHypothesis]

/-- Code whose only line breaks are newlines is cut into its lines at the newlines; if there is one
at the very end, an empty row follows. -/
theorem splitOn_eq_lines {code : Text}
    (plain : ∀ char ∈ code, isLineBreak char = true → char = '\n') :
    splitOn '\n' code = lines code ∨ splitOn '\n' code = lines code ++ [[]] := by
  induction code with
  | nil => exact .inr rfl
  | cons char code inductionHypothesis =>
    obtain ⟨here, plain⟩ := List.forall_mem_cons.mp plain
    have behind := inductionHypothesis plain
    by_cases newline : char = '\n'
    · subst newline
      rw [lines_newline, splitOn, if_pos rfl, List.cons_append, List.cons.injEq, List.cons.injEq]
      exact behind.imp (.intro rfl) (.intro rfl)
    · have solid' : isLineBreak char = false := Bool.eq_false_iff.mpr (mt here newline)
      rw [lines_cons_of_not_break solid', splitOn, if_neg newline]
      rcases behind with same | longer
      · rw [same]
        cases cut : lines code with
        | nil => exact absurd (same.trans cut) (splitOn_ne_nil '\n' code)
        | cons first rest => exact .inl rfl
      · rw [longer]
        cases lines code with
        | nil => exact .inl rfl
        | cons first rest => exact .inr rfl

/-- Where newlines are the only line breaks, the import statements of a piece of code are the rows
of the ranges that the search for imports finds when the code is cut at its newlines, and each of
these ranges lies within the rows. -/
theorem imports_eq_map_importRanges {code : Text}
    (plain : ∀ char ∈ code, isLineBreak char = true → char = '\n') :
    imports code = (importRanges (splitOn '\n' code)).map
        (fun range => statementText (rowsOf (splitOn '\n' code) range)) ∧
      ∀ range ∈ importRanges (splitOn '\n' code),
        range.1 ≤ range.2 ∧ range.2 < (splitOn '\n' code).length := by
  constructor
  · have sameRows : importsFrom [] (lines code) = importsFrom [] (splitOn '\n' code) := by
      rcases splitOn_eq_lines plain with same | longer
      · rw [same]
      · rw [longer, importsFrom_concat_nil]
    have inStep := importsFrom_eq [] [] (splitOn '\n' code)
    calc imports code
        = (importsFrom [] (splitOn '\n' code)).map statementText := by
          rw [← sameRows]
          rfl
      _ = ((importRanges (splitOn '\n' code)).map (rowsOf (splitOn '\n' code))).map
            statementText := congrArg _ inStep
      _ = _ := List.map_map
  · intro range member
    have bounds := bounds_of_mem_importRangesFrom (by simp) member
    rwa [Nat.zero_add] at bounds

/-- An import over several rows, a row that looks like one within it, and an import that is never
closed. -/
def unfinishedImports : Text :=
  "import \x7b\n  a,\n  import,\n\x7d from 'a';  \nrun();\n  import 'b'\nimport c from\n".toList

theorem imports_eq_map_importRanges_of_unfinished :
    (∀ char ∈ unfinishedImports, isLineBreak char = true → char = '\n') ∧
      importRanges (splitOn '\n' unfinishedImports) = [(0, 3), (5, 5)] ∧
      imports unfinishedImports =
        ["import \x7b\n  a,\n  import,\n\x7d from 'a';".toList, "import 'b'".toList] := by
  have all : unfinishedImports.all (fun char => !isLineBreak char || char = '\n') = true := by
    decide
  have plain (char : Char) (member : char ∈ unfinishedImports) (breaks : isLineBreak char = true) :
      char = '\n' := by
    simpa [breaks] using List.all_eq_true.mp all char member
  refine ⟨plain, by decide, ?_⟩
  rw [(imports_eq_map_importRanges plain).1]
  decide

end GuidedMigration.Code
