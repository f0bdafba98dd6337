/-
This file says what is left when lines are removed. The pattern of a line takes a row as a whole,
its newline included, when the row without the spaces and tabs around it is that line, and it begins
nowhere else. So a run over a text keeps exactly its other rows. Then runs of newlines are cut down
to two. That makes up no row that did not stand there before, so nothing is left for a second run.
-/
import Mathlib.Data.List.SplitBy
import Mathlib.Data.List.TakeWhile
import GuidedMigration.Proofs.Text.Lines
import GuidedMigration.Proofs.Text.Scan

namespace GuidedMigration.Code

open Text

/-! ### Rows with their newlines -/

/-- The rows of a text, each with the newline that ends it; the last one may lack it. -/
def newlineRows (text : Text) : List Text := text.splitBy fun char _ => char ≠ '\n'

/-- Whether a row is a line, the spaces and tabs around it aside. -/
def isRowOf (line row : Text) : Bool :=
  trimWhile isSpaceOrTab (row.takeWhile (· ≠ '\n')) = line

variable {line row behind text : Text} {before : Option Char}

theorem newlineRows_of_clean (written : row ≠ []) (clean : '\n' ∉ row.dropLast) :
    newlineRows row = [row] := by
  refine List.splitBy_of_isChain written ?_
  induction row with
  | nil => exact List.isChain_nil
  | cons char row inductionHypothesis =>
    cases row with
    | nil => exact List.isChain_singleton _
    | cons next row =>
      rw [List.dropLast_cons_cons, List.mem_cons, not_or] at clean
      exact List.isChain_cons_cons.mpr ⟨by simpa using Ne.symm clean.1,
        inductionHypothesis (List.cons_ne_nil _ _) clean.2⟩

theorem newlineRows_append (clean : '\n' ∉ row) (behind : Text) :
    newlineRows (row ++ ['\n'] ++ behind) = (row ++ ['\n']) :: newlineRows behind := by
  have alone : newlineRows (row ++ ['\n']) = [row ++ ['\n']] :=
    newlineRows_of_clean (by simp) (by rwa [List.dropLast_concat])
  rw [newlineRows, List.splitBy_append, ← newlineRows, alone]
  · rfl
  · simp

/-- What holds of a last row, and in front of a text with every row that is put there, holds of
every text. -/
@[elab_as_elim]
theorem rowInduction {motive : Text → Prop} (last : ∀ row, '\n' ∉ row → motive row)
    (more : ∀ row behind, '\n' ∉ row → motive behind → motive (row ++ ['\n'] ++ behind))
    (text : Text) : motive text := by
  obtain ⟨rows, row, clean, clean', rfl⟩ := exists_closed text
  induction rows with
  | nil => exact last row clean'
  | cons first rows inductionHypothesis =>
    rw [closed, List.flatMap_cons, List.append_assoc]
    exact more first _ (clean first List.mem_cons_self)
      (inductionHypothesis fun other member => clean other (List.mem_cons_of_mem _ member))

/-- A choice of rows consists of the rows that were chosen. -/
theorem newlineRows_flatten_filter (kind : Text → Bool) (text : Text) :
    newlineRows ((newlineRows text).filter kind).flatten = (newlineRows text).filter kind := by
  induction text using rowInduction with
  | last row clean =>
    by_cases some' : row = []
    · rw [some']
      rfl
    · have alone := newlineRows_of_clean some' fun member => clean (List.dropLast_subset _ member)
      rw [alone]
      cases chosen : kind row
      · rw [List.filter_cons_of_neg (by simp [chosen])]
        rfl
      · rw [List.filter_cons_of_pos chosen, List.filter_nil, List.flatten_singleton, alone]
  | more row behind clean inductionHypothesis =>
    rw [newlineRows_append clean]
    cases chosen : kind (row ++ ['\n'])
    · rw [List.filter_cons_of_neg (by simp [chosen]), inductionHypothesis]
    · rw [List.filter_cons_of_pos chosen, List.flatten_cons, newlineRows_append clean,
        inductionHypothesis]

/-! ### The pattern of a line -/

theorem dropPrefix?_append_of_clean (clean : '\n' ∉ line)
    (ends : behind.head?.all (· = '\n') = true) (text : Text) :
    dropPrefix? line (text ++ behind) = (dropPrefix? line text).map (· ++ behind) := by
  induction line generalizing text with
  | nil => rfl
  | cons first line inductionHypothesis =>
    rw [List.mem_cons, not_or] at clean
    cases text with
    | nil =>
      cases behind with
      | nil => rfl
      | cons char behind =>
        obtain rfl : char = '\n' := by simpa using ends
        exact if_neg (Ne.symm clean.1)
    | cons char text =>
      rw [List.cons_append, dropPrefix?, dropPrefix?, inductionHypothesis clean.2]
      split <;> rfl

theorem dropWhile_append_of_newline (ends : behind.head?.all (· = '\n') = true) (text : Text) :
    (text ++ behind).dropWhile isSpaceOrTab = text.dropWhile isSpaceOrTab ++ behind := by
  have stops : behind.dropWhile isSpaceOrTab = behind := by
    cases behind with
    | nil => rfl
    | cons char behind =>
      obtain rfl : char = '\n' := by simpa using ends
      exact List.dropWhile_cons_of_neg (by decide)
  rw [List.dropWhile_append]
  split
  · next none' => rw [stops, List.isEmpty_iff.mp none', List.nil_append]
  · rfl

theorem trimRightWhile_append {skip : Char → Bool} {more : Text}
    (ends : text.getLast?.any (!skip ·) = true) (skipped : more.all skip = true) :
    trimRightWhile skip (text ++ more) = text := by
  have none' : more.reverse.dropWhile skip = [] := by
    rwa [List.dropWhile_eq_nil_iff, ← List.all_eq_true, List.all_reverse]
  rcases List.eq_nil_or_concat text with rfl | ⟨text, char, rfl⟩
  · exact absurd ends Bool.false_ne_true
  · rw [List.concat_eq_append] at ends ⊢
    rw [List.getLast?_concat, Option.any_some, Bool.not_eq_true'] at ends
    rw [trimRightWhile, List.reverse_append, List.dropWhile_append, none', List.isEmpty_nil,
      if_pos rfl, List.reverse_concat, List.dropWhile_cons_of_neg (by simp [ends]),
      List.reverse_cons, List.reverse_reverse]

/-- A row is a line if the line stands behind the blanks and only blanks stand behind it. -/
theorem trimWhile_eq_iff {skip : Char → Bool} (ends : line.getLast?.any (!skip ·) = true) :
    trimWhile skip row = line ↔
      ∃ more, dropPrefix? line (row.dropWhile skip) = some more ∧ more.all skip = true := by
  rw [trimWhile, trimLeftWhile]
  constructor
  · intro trimmed
    have whole := List.takeWhile_append_dropWhile (p := skip) (l := (row.dropWhile skip).reverse)
    have cut := congrArg List.reverse whole
    rw [List.reverse_append, List.reverse_reverse, ← trimRightWhile, trimmed] at cut
    refine ⟨_, by rw [← cut]; exact dropPrefix?_append _ _, ?_⟩
    rw [List.all_reverse]
    exact List.all_takeWhile
  · rintro ⟨more, found, skipped⟩
    rw [dropPrefix?_eq_some found, trimRightWhile_append ends skipped]

/-- Behind the line, blanks may stand in front of the newline. -/
theorem match?_lineEnding (clean : '\n' ∉ row) (ends : behind.head?.all (· = '\n') = true) :
    (Pattern.match? [.margin, .lineEnd, .optional '\n'] ⟨before, row ++ behind⟩).map Place.rest =
      if row.all isSpaceOrTab then some (dropOptional '\n' behind) else none := by
  show (Pattern.match? [.lineEnd, .optional '\n']
    (Place.skip isSpaceOrTab ⟨before, row ++ behind⟩)).map Place.rest = _
  rw [Place.skip_eq, dropWhile_append_of_newline ends]
  dsimp only
  have empty : row.dropWhile isSpaceOrTab = [] ↔ row.all isSpaceOrTab = true := by
    rw [List.dropWhile_eq_nil_iff, List.all_eq_true]
  by_cases skipped : row.all isSpaceOrTab = true
  · obtain ⟨other, newline⟩ := exists_match?_optional '\n' []
      (lastChar before ((row ++ behind).takeWhile isSpaceOrTab)) behind
    rw [if_pos skipped, empty.mpr skipped, List.nil_append]
    show (if behind.head?.all (· = '\n') = true then
      Pattern.match? [.optional '\n'] _ else none).map Place.rest = _
    rw [if_pos ends, newline]
    rfl
  · obtain ⟨char, more, cut⟩ := List.exists_cons_of_ne_nil (mt empty.mp skipped)
    have other : char ≠ '\n' := by
      rintro rfl
      exact clean ((List.dropWhile_suffix _).mem (cut ▸ List.mem_cons_self))
    rw [if_neg skipped, cut]
    show (if decide (char = '\n') = true then _ else none).map Place.rest = _
    rw [if_neg (by simpa using other)]
    rfl

/-- The pattern of a line takes a row that is the line, with the newline behind it. -/
theorem match?_linePattern (written : trim line ≠ []) (whole : '\n' ∉ trim line)
    (starts : before.all (· = '\n') = true) (clean : '\n' ∉ row)
    (ends : behind.head?.all (· = '\n') = true) :
    (Pattern.match? (linePattern line) ⟨before, row ++ behind⟩).map Place.rest =
      if trimWhile isSpaceOrTab row = trim line then some (dropOptional '\n' behind) else none := by
  have solid' : (trim line).getLast?.any (!isSpaceOrTab ·) = true := by
    obtain ⟨char, last, solid'⟩ := (Option.any_eq_true _ _).mp (isTrimmed_trim written).ends
    refine (Option.any_eq_true _ _).mpr ⟨char, last, ?_⟩
    rw [Bool.not_eq_true'] at solid' ⊢
    exact Bool.eq_false_iff.mpr fun skipped =>
      Bool.false_ne_true (solid'.symm.trans (isBlank_of_isSpaceOrTab skipped))
  show (if before.all (· = '\n') = true then
    Pattern.match? (exactly (trim line) ++ [.margin, .lineEnd, .optional '\n'])
      (Place.skip isSpaceOrTab ⟨before, row ++ behind⟩) else none).map Place.rest = _
  rw [if_pos starts, Place.skip_eq, match?_exactly, dropWhile_append_of_newline ends,
    dropPrefix?_append_of_clean whole ends]
  cases found : dropPrefix? (trim line) (row.dropWhile isSpaceOrTab) with
  | none =>
    have other : trimWhile isSpaceOrTab row ≠ trim line := fun same => by
      obtain ⟨more, found', -⟩ := (trimWhile_eq_iff solid').mp same
      exact nomatch found.symm.trans found'
    rw [if_neg other]
    rfl
  | some more =>
    have clean' : '\n' ∉ more := fun member => clean <|
      (List.dropWhile_suffix isSpaceOrTab).mem <|
        dropPrefix?_eq_some found ▸ List.mem_append_right _ member
    have same : trimWhile isSpaceOrTab row = trim line ↔ more.all isSpaceOrTab = true := by
      rw [trimWhile_eq_iff solid', found]
      simp
    rw [Option.map_some, Option.bind_some, match?_lineEnding clean' ends]
    simp only [same]

/-- The pattern of a line begins nowhere behind the first character of a row. -/
theorem nowhere_linePattern (inside : before.all (· = '\n') = false) (clean : '\n' ∉ text.dropLast)
    (behind : Text) :
    nowhere (fun place => (Pattern.match? (linePattern line) place).isSome) before text behind =
      true := by
  induction text generalizing before with
  | nil => rfl
  | cons char text inductionHypothesis =>
    refine nowhere_cons.mpr ⟨?_, ?_⟩
    · show (if before.all (· = '\n') = true then _ else none).isSome = false
      rw [if_neg (by simp [inside])]
      rfl
    · cases text with
      | nil => rfl
      | cons next text =>
        rw [List.dropLast_cons_cons, List.mem_cons, not_or] at clean
        exact inductionHypothesis (by simpa using Ne.symm clean.1) clean.2

/-! ### Removing rows -/

variable {ending : Text}

theorem deleteFrom_nil (written : trim line ≠ []) (before : Option Char) :
    deleteFrom (linePattern line) 0 before [] = ([], 0) := by
  have missing : Pattern.match? (linePattern line) ⟨before, []⟩ = none := by
    show (if before.all (· = '\n') = true then
      Pattern.match? (exactly (trim line) ++ _) ⟨before, []⟩ else none) = none
    obtain ⟨first, more, cut⟩ := List.exists_cons_of_ne_nil written
    rw [match?_exactly, cut]
    split <;> rfl
  rw [deleteFrom, missing]

/-- A row goes with its newline if it is the line, and stays otherwise. -/
theorem deleteFrom_row (written : trim line ≠ []) (whole : '\n' ∉ trim line)
    (starts : before.all (· = '\n') = true) (clean : '\n' ∉ row)
    (ends : ending = ['\n'] ∨ ending = [] ∧ behind = []) (some' : row ++ ending ≠ []) :
    deleteFrom (linePattern line) 0 before (row ++ ending ++ behind) =
      let later := deleteFrom (linePattern line) 0 (lastChar before (row ++ ending)) behind
      if isRowOf (trim line) (row ++ ending) then (later.1, later.2 + 1)
      else (row ++ ending ++ later.1, later.2) := by
  obtain ⟨stops, clean', stops', dropped⟩ : ending.head?.any (· ≠ '\n') = false ∧
      '\n' ∉ (row ++ ending).dropLast ∧ (ending ++ behind).head?.all (· = '\n') = true ∧
      dropOptional '\n' (ending ++ behind) = behind := by
    rcases ends with rfl | ⟨rfl, rfl⟩
    · exact ⟨rfl, by rwa [List.dropLast_concat], rfl, rfl⟩
    · rw [List.append_nil]
      exact ⟨rfl, fun member => clean (List.dropLast_subset _ member), rfl, rfl⟩
  have found := match?_linePattern written whole starts clean stops'
  rw [dropped, ← List.append_assoc] at found
  have others : row.all (· ≠ '\n') = true := List.all_eq_true.mpr fun char member => by
    simpa using fun same : char = '\n' => clean (same ▸ member)
  dsimp only
  rw [isRowOf, takeWhile_append_of_head others stops]
  by_cases same : trimWhile isSpaceOrTab row = trim line
  · rw [if_pos same] at found
    rw [deleteFrom_occurrence some' found, if_pos (decide_eq_true same)]
    have skipped := deleteFrom_skip (linePattern line) 0 before (row ++ ending) behind
    rw [Nat.add_zero] at skipped
    rw [skipped]
  · rw [if_neg same, Option.map_eq_none_iff] at found
    rw [if_neg (by simpa using same)]
    refine deleteFrom_append ?_
    obtain ⟨char, more, cut⟩ := List.exists_cons_of_ne_nil some'
    rw [cut] at found clean' ⊢
    refine nowhere_cons.mpr
      ⟨Option.isSome_eq_false_iff.mpr (Option.isNone_iff_eq_none.mpr found), ?_⟩
    cases more with
    | nil => rfl
    | cons next more =>
      rw [List.dropLast_cons_cons, List.mem_cons, not_or] at clean'
      exact nowhere_linePattern (by simpa using Ne.symm clean'.1) clean'.2 behind

/-- A run over a text keeps the rows that are not the line. -/
theorem deleteFrom_linePattern (written : trim line ≠ []) (whole : '\n' ∉ trim line)
    (starts : before.all (· = '\n') = true) (text : Text) :
    deleteFrom (linePattern line) 0 before text =
      (((newlineRows text).filter (!isRowOf (trim line) ·)).flatten,
        (newlineRows text).countP (isRowOf (trim line))) := by
  induction text using rowInduction generalizing before with
  | last row clean =>
    by_cases some' : row = []
    · rw [some', deleteFrom_nil written]
      rfl
    · have once :=
        deleteFrom_row written whole starts clean (.inr ⟨rfl, rfl⟩) (by simpa using some')
      rw [List.append_nil, List.append_nil, deleteFrom_nil written] at once
      rw [once, newlineRows_of_clean some' fun member => clean (List.dropLast_subset _ member)]
      cases same : isRowOf (trim line) row <;> simp [same]
  | more row behind clean inductionHypothesis =>
    rw [deleteFrom_row written whole starts clean (.inl rfl) (by simp), newlineRows_append clean,
      lastChar_append, inductionHypothesis rfl]
    cases same : isRowOf (trim line) (row ++ ['\n']) <;> simp [same]

/-! ### Runs of newlines -/

/-- A text cut into its runs of newlines and its other characters. -/
def newlineRuns (text : Text) : List Text :=
  text.splitBy fun char next => char = '\n' && next = '\n'

/-- A text with at most two newlines of each run. -/
def shortenRuns (text : Text) : Text := (newlineRuns text).flatMap (·.take 2)

theorem shortenRuns_append {char : Char} (other : char ≠ '\n') (text behind : Text) :
    shortenRuns (text ++ char :: behind) = shortenRuns text ++ char :: shortenRuns behind := by
  have apart {left right : Text} (stops : left.getLast? = some char ∨ right.head? = some char) :
      shortenRuns (left ++ right) = shortenRuns left ++ shortenRuns right := by
    rw [shortenRuns, newlineRuns, List.splitBy_append, List.flatMap_append]
    · rfl
    · intro last ends first begins
      rcases stops with stops | stops
      · simp [show last = char by simpa using ends.symm.trans stops, other]
      · simp [show first = char by simpa using begins.symm.trans stops, other]
  rw [apart (.inr rfl), ← List.singleton_append, apart (.inl rfl)]
  rfl

theorem shortenRuns_replicate (count : Nat) :
    shortenRuns (List.replicate count '\n') = List.replicate (min count 2) '\n' := by
  cases count with
  | zero => rfl
  | succ count =>
    rw [shortenRuns, newlineRuns, List.splitBy_of_isChain (by simp)
      (List.isChain_replicate_of_rel _ rfl), List.flatMap_singleton, List.take_replicate,
      Nat.min_comm]

/-- Shortening goes on behind newlines as it does in front of them. -/
theorem replicate_append_collapseNewlines (count : Nat) (text : Text) :
    List.replicate (min count 2) '\n' ++ collapseNewlines (min count 2) text =
      shortenRuns (List.replicate count '\n' ++ text) := by
  induction text generalizing count with
  | nil => rw [collapseNewlines, List.append_nil, List.append_nil, shortenRuns_replicate]
  | cons char text inductionHypothesis =>
    rw [collapseNewlines]
    by_cases newline : char = '\n'
    · have longer := inductionHypothesis (count + 1)
      rw [List.replicate_succ', List.append_assoc, List.singleton_append] at longer
      rw [if_pos newline, newline, ← longer]
      split
      · next few =>
        have size : min (count + 1) 2 = min count 2 + 1 := by omega
        rw [size, List.replicate_succ', List.append_assoc, List.singleton_append]
      · next many =>
        have size : min (count + 1) 2 = min count 2 := by omega
        rw [size]
    · have alone := inductionHypothesis 0
      rw [Nat.zero_min, List.replicate_zero, List.nil_append, List.nil_append] at alone
      rw [if_neg newline, alone, shortenRuns_append newline, shortenRuns_replicate]

theorem collapseBlankLines_eq (text : Text) : collapseBlankLines text = shortenRuns text :=
  replicate_append_collapseNewlines 0 text

theorem collapseNewlines_append (clean : '\n' ∉ row) (run : Nat) (behind : Text) :
    collapseNewlines run (row ++ behind) =
      row ++ collapseNewlines (if row = [] then run else 0) behind := by
  induction row generalizing run with
  | nil => rfl
  | cons char row inductionHypothesis =>
    rw [List.mem_cons, not_or] at clean
    rw [List.cons_append, collapseNewlines, if_neg (Ne.symm clean.1), inductionHypothesis clean.2,
      ite_self, if_neg (List.cons_ne_nil _ _)]
    rfl

/-- Where newlines are left out, every row that is left stood there before. -/
theorem newlineRows_collapseNewlines_subset (run : Nat) (text : Text) :
    newlineRows (collapseNewlines run text) ⊆ newlineRows text := by
  induction text using rowInduction generalizing run with
  | last row clean =>
    have same := collapseNewlines_append clean run []
    rw [List.append_nil, collapseNewlines, List.append_nil] at same
    rw [same]
    exact List.Subset.refl _
  | more row behind clean inductionHypothesis =>
    rw [newlineRows_append clean, List.append_assoc, collapseNewlines_append clean,
      List.singleton_append, collapseNewlines, if_pos rfl]
    generalize starts : (if row = [] then run else 0) = start
    by_cases few : start < 2
    · rw [if_pos few, List.append_cons, newlineRows_append clean]
      exact List.cons_subset_cons _ (inductionHypothesis _)
    · have none' : row = [] := by
        by_contra some'
        rw [if_neg some'] at starts
        omega
      rw [if_neg few, none', List.nil_append]
      exact List.subset_cons_of_subset _ (inductionHypothesis _)

/-! ### Removing lines -/

theorem flatten_newlineRows (text : Text) : (newlineRows text).flatten = text :=
  List.flatten_splitBy _ text

theorem deletePatterns_linePattern (written : trim line ≠ []) (whole : '\n' ∉ trim line)
    (content : Text) :
    deletePatterns content [linePattern line] =
      (if (newlineRows content).countP (isRowOf (trim line)) = 0 then content
        else shortenRuns ((newlineRows content).filter (!isRowOf (trim line) ·)).flatten,
        (newlineRows content).countP (isRowOf (trim line))) := by
  have run : deletePattern content (linePattern line) = _ :=
    deleteFrom_linePattern written whole rfl content
  rw [deletePatterns, List.foldl_cons, List.foldl_nil]
  dsimp only
  rw [run, Nat.zero_add, collapseBlankLines_eq]
  by_cases absent : (newlineRows content).countP (isRowOf (trim line)) = 0
  · have all : (newlineRows content).filter (!isRowOf (trim line) ·) = newlineRows content :=
      List.filter_eq_self.mpr fun row member => by
        simpa using List.countP_eq_zero.mp absent row member
    rw [if_pos absent, if_pos absent, all, flatten_newlineRows]
  · rw [if_neg absent, if_neg absent]

/-- Removing a line keeps exactly the rows that are not that line, spaces and tabs around them
aside, and counts the other ones; if there were any, no more than two newlines are left of each run.
A second removal finds nothing and leaves the text as it is. -/
theorem removal_keeps_other_rows (written : trim line ≠ []) (whole : '\n' ∉ trim line)
    (content : Text) :
    let kept := ((newlineRows content).filter (!isRowOf (trim line) ·)).flatten
    let count := (newlineRows content).countP (isRowOf (trim line))
    let left := if count = 0 then content else shortenRuns kept
    deletePatterns content [linePattern line] = (left, count) ∧
      deletePatterns left [linePattern line] = (left, 0) := by
  intro kept count left
  refine ⟨deletePatterns_linePattern written whole content, ?_⟩
  have absent : (newlineRows left).countP (isRowOf (trim line)) = 0 := by
    by_cases none' : count = 0
    · rwa [show left = content from if_pos none']
    · refine List.countP_eq_zero.mpr fun row member => ?_
      rw [show left = shortenRuns kept from if_neg none', ← collapseBlankLines_eq] at member
      have stood := newlineRows_collapseNewlines_subset 0 kept member
      rw [newlineRows_flatten_filter] at stood
      simpa using (List.mem_filter.mp stood).2
  rw [deletePatterns_linePattern written whole, absent, if_pos rfl]

/-- Lines that ignore a directory: between blank lines, indented, next to each other and at the end,
where no newline stands. -/
def ignoredPackages : Text := "dist\n\n /packages\t\n\n/packages\n/packages/app\n/packages".toList

theorem removal_of_ignored_packages :
    deletePatterns ignoredPackages [linePattern " /packages".toList] =
      ("dist\n\n/packages/app\n".toList, 3) ∧
    deletePatterns "dist\n\n/packages/app\n".toList [linePattern " /packages".toList] =
      ("dist\n\n/packages/app\n".toList, 0) := by
  have removal := @removal_keeps_other_rows " /packages".toList (by decide) (by decide)
    ignoredPackages
  have left : shortenRuns ((newlineRows ignoredPackages).filter
      (!isRowOf (trim " /packages".toList) ·)).flatten = "dist\n\n/packages/app\n".toList := by
    decide +kernel
  have count : (newlineRows ignoredPackages).countP (isRowOf (trim " /packages".toList)) = 3 := by
    decide +kernel
  dsimp only at removal
  rwa [count, left] at removal

end GuidedMigration.Code
