/-
This file follows the search for import statements through the rows of a file. Whether a statement
is open behind some rows decides what the search makes of those that follow, so the statements found
among rows are those of the upper rows and those of the lower ones. A new import goes behind the
last row that ends a statement, and to the top if there is none.
-/
import GuidedMigration.Code.Primitive
import GuidedMigration.Proofs.Text.SolidRows

namespace GuidedMigration.Code

open Text

variable {index : Nat} {start : Option Nat} {row fragment : Text} {rows above below : List Text}

/-! ### Rows that end a statement -/

/-- The characters that may stand behind the module that a statement ends in. -/
def isEnding (char : Char) : Bool := isBlank char || char = ';'

theorem exists_skipEnding (reversed : Text) :
    ∃ tail : Text, tail.all isEnding = true ∧ reversed = tail ++ skipEnding reversed := by
  have blanks (text : Text) : (text.takeWhile isBlank).all isEnding = true :=
    List.all_eq_true.mpr fun char member => by
      rw [isEnding, List.all_eq_true.mp List.all_takeWhile char member, Bool.true_or]
  have cut (text : Text) : text = text.takeWhile isBlank ++ trimLeft text :=
    List.takeWhile_append_dropWhile.symm
  rw [skipEnding]
  split
  · rename_i rest semicolon
    refine ⟨reversed.takeWhile isBlank ++ ';' :: rest.takeWhile isBlank, ?_, ?_⟩
    · rw [List.all_append, List.all_cons, blanks, blanks]
      rfl
    · rw [List.append_assoc, List.cons_append, ← cut rest, ← semicolon]
      exact cut reversed
  · exact ⟨reversed.takeWhile isBlank, blanks reversed, cut reversed⟩

/-- A row that ends a statement has a quote at its end, but for blanks and semicolons. -/
theorem exists_quote_of_endsImport (ends : endsImport row = true) :
    ∃ lead quote tail, row = lead ++ quote :: tail ∧ isQuote quote = true ∧
      tail.all isEnding = true := by
  obtain ⟨tail, ending, cut⟩ := exists_skipEnding row.reverse
  rw [endsImport] at ends
  cases skipped : skipEnding row.reverse with
  | nil => simp [skipped] at ends
  | cons quote rest =>
    rw [skipped] at ends cut
    refine ⟨rest.reverse, quote, tail.reverse, ?_, ?_, ?_⟩
    · rw [← List.reverse_reverse row, cut]
      simp
    · simp only [Bool.and_eq_true] at ends
      exact ends.1.1
    · rw [List.all_reverse]
      exact ending

theorem trimLeft_append_blank {blanks : Text} (blank : isBlankText blanks = true) (text : Text) :
    trimLeft (text ++ blanks) = if trimLeft text = [] then [] else trimLeft text ++ blanks := by
  rw [trimLeft, trimLeftWhile, trimLeft, trimLeftWhile, List.dropWhile_append]
  cases text.dropWhile isBlank with
  | nil =>
    rw [List.isEmpty_nil, if_pos rfl, if_pos rfl, ← List.append_nil blanks,
      List.dropWhile_append_of_pos (List.all_eq_true.mp blank), List.dropWhile_nil]
  | cons first rest => rfl

theorem skipEnding_append_blank {blanks : Text} (blank : isBlankText blanks = true)
    (reversed : Text) : skipEnding (reversed ++ blanks) =
      if skipEnding reversed = [] then [] else skipEnding reversed ++ blanks := by
  rw [skipEnding, skipEnding, trimLeft_append_blank blank]
  cases trimLeft reversed with
  | nil => simp
  | cons first rest =>
    by_cases semicolon : first = ';'
    · subst semicolon
      simpa using trimLeft_append_blank blank rest
    · simp [semicolon]

/-- Whether a row ends a statement does not depend on how it is indented. -/
theorem endsImport_indented {blanks : Text} (blank : isBlankText blanks = true) (row : Text) :
    endsImport (blanks ++ row) = endsImport row := by
  have blank' : isBlankText blanks.reverse = true := by
    rw [isBlankText, List.all_reverse]
    exact blank
  have unquoted (char : Char) (member : char ∈ blanks.reverse) : (!isQuote char) = true := by
    rw [Bool.not_eq_true']
    refine Bool.eq_false_iff.mpr fun quote => ?_
    have isBlank' := List.all_eq_true.mp blank' char member
    rw [isQuote, Bool.or_eq_true, decide_eq_true_eq, decide_eq_true_eq] at quote
    rcases quote with rfl | rfl <;> exact absurd isBlank' (by decide)
  have whole : blanks.reverse.takeWhile (!isQuote ·) = blanks.reverse := by
    have taken := @List.takeWhile_append_of_pos _ (!isQuote ·) _ [] unquoted
    rwa [List.append_nil, List.takeWhile_nil, List.append_nil] at taken
  rw [endsImport, endsImport, List.reverse_append, skipEnding_append_blank blank']
  cases skipEnding row.reverse with
  | nil => simp
  | cons quote rest =>
    rw [if_neg (by simp), List.cons_append]
    dsimp only
    rw [List.takeWhile_append, whole]
    split
    · rename_i all
      simp [all]
    · rename_i some'
      have shorter : (rest.takeWhile (!isQuote ·)).length < rest.length :=
        Nat.lt_of_le_of_ne (List.takeWhile_prefix _).length_le some'
      rw [decide_eq_true shorter, decide_eq_true (by rw [List.length_append]; omega)]

theorem startsImport_indented {blanks : Text} (blank : isBlankText blanks = true) (row : Text) :
    startsImport (blanks ++ row) = startsImport row := by
  rw [startsImport, startsImport, trimLeft, trimLeft, trimLeftWhile, trimLeftWhile,
    List.dropWhile_append_of_pos (List.all_eq_true.mp blank)]

/-! ### The search through rows -/

/-- The first row of the statement that is open behind rows; `start` is that of a statement that is
open in front of them. -/
def openFrom : Nat → Option Nat → List Text → Option Nat
  | _, start, [] => start
  | index, start, row :: rows =>
    if start.isNone && !startsImport row then openFrom (index + 1) none rows
    else if endsImport row then openFrom (index + 1) none rows
    else openFrom (index + 1) (some (start.getD index)) rows

theorem importRangesFrom_append (index : Nat) (start : Option Nat) (above below : List Text) :
    importRangesFrom index start (above ++ below) = importRangesFrom index start above ++
      importRangesFrom (index + above.length) (openFrom index start above) below := by
  induction above generalizing index start with
  | nil => rfl
  | cons row above inductionHypothesis =>
    have further : index + (row :: above).length = index + 1 + above.length := by
      rw [List.length_cons]
      omega
    rw [further, List.cons_append, importRangesFrom, importRangesFrom, openFrom]
    split
    · exact inductionHypothesis (index + 1) none
    · split
      · rw [List.cons_append, inductionHypothesis]
      · exact inductionHypothesis (index + 1) (some (start.getD index))

theorem openFrom_append (index : Nat) (start : Option Nat) (above below : List Text) :
    openFrom index start (above ++ below) =
      openFrom (index + above.length) (openFrom index start above) below := by
  induction above generalizing index start with
  | nil => rfl
  | cons row above inductionHypothesis =>
    have further : index + (row :: above).length = index + 1 + above.length := by
      rw [List.length_cons]
      omega
    rw [further, List.cons_append, openFrom, openFrom]
    split
    · exact inductionHypothesis (index + 1) none
    · split
      · exact inductionHypothesis (index + 1) none
      · exact inductionHypothesis (index + 1) (some (start.getD index))

/-- A row at which a range ends leaves no statement open. -/
theorem openFrom_of_importRangesFrom (closes : importRangesFrom index start [row] ≠ []) :
    openFrom index start [row] = none := by
  rw [importRangesFrom] at closes
  rw [openFrom]
  split
  · rfl
  · rename_i taken
    rw [if_neg taken] at closes
    split
    · rfl
    · rename_i open'
      dsimp only at closes
      rw [if_neg open'] at closes
      exact absurd rfl closes

/-- A range ends at a row that ends a statement. -/
theorem exists_of_mem_importRangesFrom {range : Nat × Nat}
    (member : range ∈ importRangesFrom index start rows) :
    ∃ above row below, rows = above ++ row :: below ∧ range.2 = index + above.length ∧
      endsImport row = true := by
  induction rows generalizing index start with
  | nil => simp [importRangesFrom] at member
  | cons row rows inductionHypothesis =>
    have behind {start : Option Nat} (member : range ∈ importRangesFrom (index + 1) start rows) :
        ∃ above row' below, row :: rows = above ++ row' :: below ∧
          range.2 = index + above.length ∧ endsImport row' = true := by
      obtain ⟨above, row', below, rfl, at', ends⟩ := inductionHypothesis member
      refine ⟨row :: above, row', below, rfl, ?_, ends⟩
      rw [at', List.length_cons]
      omega
    rw [importRangesFrom] at member
    split at member
    · exact behind member
    · split at member
      · rename_i ends
        rcases List.mem_cons.mp member with rfl | member
        · exact ⟨[], row, rows, rfl, rfl, ends⟩
        · exact behind member
      · exact behind member

/-! ### Rows without statements -/

/-- Whether no statement is found among rows: from a row on that starts with `import`, no row ends
like a statement. -/
def IsFree (rows : List Text) : Prop :=
  ∀ above row below, rows = above ++ row :: below → startsImport row = true →
    ∀ other ∈ row :: below, endsImport other = false

theorem isFree_cons :
    IsFree (row :: rows) ↔
      (startsImport row = true → ∀ other ∈ row :: rows, endsImport other = false) ∧
        IsFree rows := by
  constructor
  · intro free
    refine ⟨free [] row rows rfl, fun above other below split => ?_⟩
    exact free (row :: above) other below (split ▸ rfl)
  · rintro ⟨first, others⟩ above other below split
    cases above with
    | nil =>
      obtain ⟨rfl, rfl⟩ := List.cons.inj split
      exact first
    | cons head above =>
      obtain ⟨rfl, same⟩ := List.cons.inj split
      exact others above other below same

theorem importRangesFrom_some_eq_nil {first : Nat} :
    importRangesFrom index (some first) rows = [] ↔ ∀ row ∈ rows, endsImport row = false := by
  induction rows generalizing index first with
  | nil => simp [importRangesFrom]
  | cons row rows inductionHypothesis =>
    rw [importRangesFrom, if_neg (by simp)]
    cases ends : endsImport row <;> simp [ends, inductionHypothesis]

theorem importRangesFrom_none_eq_nil : importRangesFrom index none rows = [] ↔ IsFree rows := by
  induction rows generalizing index with
  | nil => simp [importRangesFrom, IsFree]
  | cons row rows inductionHypothesis =>
    rw [importRangesFrom, isFree_cons]
    cases starts : startsImport row with
    | false =>
      rw [if_pos (by simp), inductionHypothesis]
      simp
    | true =>
      rw [if_neg (by simp), List.forall_mem_cons]
      cases ends : endsImport row with
      | true => simp
      | false =>
        rw [if_neg Bool.false_ne_true, importRangesFrom_some_eq_nil]
        refine ⟨fun none' => ⟨fun _ => ⟨rfl, none'⟩,
          fun above other below split _ next member => ?_⟩,
          fun both => (both.1 rfl).2⟩
        exact none' next (split ▸ List.mem_append_right above member)

/-! ### The place for an import -/

/-- The index of the row before which an import is inserted. -/
def importPlace (rows : List Text) : Nat :=
  ((importRanges rows).getLast?.map fun range => range.2 + 1).getD 0

theorem firstAnchor?_import (rows : List Text) :
    ∃ locator, firstAnchor? rows Primitive.importStatement.chain =
      some (locator, ⟨importPlace rows, []⟩) := by
  rw [importPlace, firstAnchor?, Primitive.chain, List.findSome?_cons, Locator.locate,
    importBlockEnd]
  cases (importRanges rows).getLast? with
  | none => exact ⟨.topOfFile, rfl⟩
  | some range => exact ⟨.importBlockEnd, rfl⟩

theorem importPlace_le_length (rows : List Text) : importPlace rows ≤ rows.length := by
  rw [importPlace]
  cases last : (importRanges rows).getLast? with
  | none => exact Nat.zero_le _
  | some range =>
    obtain ⟨upper, row, below, rfl, at', -⟩ :=
      exists_of_mem_importRangesFrom (List.mem_of_getLast? last)
    rw [Option.map_some, Option.getD_some, at', List.length_append, List.length_cons]
    omega

/-- Whether the last of rows ends a statement; what follows is searched anew. -/
structure EndsBlock (above : List Text) : Prop where
  settled : openFrom 0 none above = none
  whole : importPlace above = above.length

theorem endsBlock_nil : EndsBlock [] := ⟨rfl, rfl⟩

/-- Behind rows that end a statement, an import goes right there, unless there are statements
further down. -/
theorem EndsBlock.importPlace_append_iff (block : EndsBlock above) :
    importPlace (above ++ below) = above.length ↔ IsFree below := by
  rw [← @importRangesFrom_none_eq_nil (0 + above.length), importPlace, importRanges,
    importRangesFrom_append, block.settled]
  cases lower : importRangesFrom (0 + above.length) none below with
  | nil =>
    rw [List.append_nil]
    exact iff_of_true block.whole rfl
  | cons range ranges =>
    refine iff_of_false (fun same => ?_) (by simp)
    obtain ⟨last, isLast⟩ := Option.isSome_iff_exists.mp
      (List.getLast?_isSome.mpr (List.cons_ne_nil range ranges))
    have member := List.mem_of_getLast? isLast
    rw [← lower] at member
    obtain ⟨upper, row, lower', -, at', -⟩ := exists_of_mem_importRangesFrom member
    rw [List.getLast?_append, isLast, Option.some_or, Option.map_some, Option.getD_some] at same
    omega

/-- The rows above the place for an import end the block of imports, and those below are free. -/
theorem endsBlock_take (rows : List Text) :
    EndsBlock (rows.take (importPlace rows)) ∧ IsFree (rows.drop (importPlace rows)) := by
  cases last : (importRanges rows).getLast? with
  | none =>
    have top : importPlace rows = 0 := by simp [importPlace, last]
    rw [top, List.take_zero, List.drop_zero]
    exact ⟨endsBlock_nil, importRangesFrom_none_eq_nil.mp (List.getLast?_eq_none_iff.mp last)⟩
  | some range =>
    obtain ⟨upper, row, below, split, at', -⟩ :=
      exists_of_mem_importRangesFrom (List.mem_of_getLast? last)
    have whole : rows = (upper ++ [row]) ++ below := by rw [split]; simp
    have place : importPlace rows = (upper ++ [row]).length := by
      rw [importPlace, last, Option.map_some, Option.getD_some, at', List.length_append,
        List.length_singleton, Nat.zero_add]
    rw [place, whole, List.take_left, List.drop_left]
    rw [importRanges, whole, importRangesFrom_append] at last
    -- The last range ends at the row, so there is none behind it, and the row closes it.
    have lower : importRangesFrom (0 + (upper ++ [row]).length) (openFrom 0 none (upper ++ [row]))
        below = [] := by
      refine List.eq_nil_iff_forall_not_mem.mpr fun other member => ?_
      obtain ⟨final, isLast⟩ := Option.isSome_iff_exists.mp
        (List.getLast?_isSome.mpr (List.ne_nil_of_mem member))
      rw [List.getLast?_append, isLast, Option.some_or] at last
      obtain ⟨above, _, _, -, further, -⟩ :=
        exists_of_mem_importRangesFrom (List.mem_of_getLast? isLast)
      rw [Option.some.inj last, at', List.length_append, List.length_singleton] at further
      omega
    rw [lower, List.append_nil] at last
    have settled : openFrom 0 none (upper ++ [row]) = none := by
      rw [openFrom_append]
      refine openFrom_of_importRangesFrom fun none' => ?_
      rw [importRangesFrom_append, none', List.append_nil] at last
      obtain ⟨above, other, behind, split', before, -⟩ :=
        exists_of_mem_importRangesFrom (List.mem_of_getLast? last)
      rw [at', split', List.length_append, List.length_cons] at before
      omega
    rw [settled] at lower
    refine ⟨⟨settled, ?_⟩, importRangesFrom_none_eq_nil.mp lower⟩
    rw [importPlace, importRanges, last, Option.map_some, Option.getD_some, at', List.length_append,
      List.length_singleton, Nat.zero_add]

/-- An import is never put behind a row that does not end a statement, but for the top. -/
theorem importPlace_ne_of_not_endsImport (open' : endsImport row = false) :
    importPlace (above ++ row :: below) ≠ (above ++ [row]).length := by
  intro same
  rw [importPlace] at same
  cases last : (importRanges (above ++ row :: below)).getLast? with
  | none => simp [last] at same
  | some range =>
    obtain ⟨upper, other, lower, split, at', ends⟩ :=
      exists_of_mem_importRangesFrom (List.mem_of_getLast? last)
    rw [last, Option.map_some, Option.getD_some, at', List.length_append, List.length_singleton]
      at same
    have parts := List.append_inj split (by omega)
    obtain ⟨rfl, -⟩ := List.cons.inj parts.2
    rw [open'] at ends
    exact Bool.false_ne_true ends

/-! ### Import statements -/

/-- Whether rows are an import statement: the first one starts with `import`, and the last one but
no earlier one ends in a quoted module, possibly with a semicolon. -/
structure IsImport (rows : List Text) : Prop where
  begins : rows.head?.any startsImport = true
  goesOn : ∀ row ∈ rows.dropLast, endsImport row = false
  ends : rows.getLast?.any endsImport = true

instance (rows : List Text) : Decidable (IsImport rows) :=
  decidable_of_iff (rows.head?.any startsImport = true ∧
      (∀ row ∈ rows.dropLast, endsImport row = false) ∧ rows.getLast?.any endsImport = true)
    ⟨fun ⟨begins, goesOn, ends⟩ => ⟨begins, goesOn, ends⟩,
      fun ⟨begins, goesOn, ends⟩ => ⟨begins, goesOn, ends⟩⟩

theorem IsImport.exists_concat (formed : IsImport rows) :
    ∃ upper last, rows = upper ++ [last] ∧ (upper ++ [last]).head?.any startsImport = true ∧
      (∀ row ∈ upper, endsImport row = false) ∧ endsImport last = true := by
  obtain ⟨begins, goesOn, ends⟩ := formed
  rcases List.eq_nil_or_concat rows with rfl | ⟨upper, last, rfl⟩
  · exact absurd begins Bool.false_ne_true
  · rw [List.concat_eq_append] at begins goesOn ends ⊢
    rw [List.dropLast_concat] at goesOn
    rw [List.getLast?_concat] at ends
    exact ⟨upper, last, rfl, begins, goesOn, ends⟩

/-- A statement is open behind rows that start with `import` if none of them ends one. -/
theorem isSome_openFrom (goesOn : ∀ row ∈ rows, endsImport row = false)
    (opened : start.isSome = true ∨ rows.head?.any startsImport = true) :
    (openFrom index start rows).isSome = true := by
  induction rows generalizing index start with
  | nil => exact opened.resolve_right Bool.false_ne_true
  | cons row rows inductionHypothesis =>
    obtain ⟨open', goesOn⟩ := List.forall_mem_cons.mp goesOn
    have taken : ¬ (start.isNone && !startsImport row) = true := by
      rcases opened with opened | opened
      · simp [Option.isNone_eq_false_iff.mpr opened]
      · rw [List.head?_cons, Option.any_some] at opened
        simp [opened]
    rw [openFrom, if_neg taken, open', if_neg Bool.false_ne_true]
    exact inductionHypothesis goesOn (.inl rfl)

/-- Behind a statement, whatever stands above it, the block of imports ends. -/
theorem endsBlock_append {upper : List Text} {last : Text}
    (begins : (upper ++ [last]).head?.any startsImport = true)
    (goesOn : ∀ row ∈ upper, endsImport row = false) (ends : endsImport last = true)
    (above : List Text) : EndsBlock (above ++ (upper ++ [last])) := by
  have opened : ((openFrom (0 + above.length) (openFrom 0 none above) upper).isNone &&
      !startsImport last) = false := by
    cases upper with
    | nil =>
      rw [List.nil_append, List.head?_cons, Option.any_some] at begins
      rw [begins, Bool.not_true, Bool.and_false]
    | cons first upper =>
      rw [Option.isNone_eq_false_iff.mpr (isSome_openFrom goesOn (.inr begins)), Bool.false_and]
  have closes {index : Nat} {start : Option Nat}
      (taken : (start.isNone && !startsImport last) = false) :
      openFrom index start [last] = none ∧
        importRangesFrom index start [last] = [(start.getD index, index)] := by
    rw [openFrom, importRangesFrom, taken, if_neg Bool.false_ne_true, if_neg Bool.false_ne_true,
      if_pos ends, if_pos ends]
    exact ⟨rfl, rfl⟩
  constructor
  · rw [openFrom_append, openFrom_append]
    exact (closes opened).1
  · rw [importPlace, importRanges, importRangesFrom_append, importRangesFrom_append,
      (closes opened).2, ← List.append_assoc, List.getLast?_concat]
    simp only [Option.map_some, Option.getD_some, List.length_append, List.length_singleton]
    omega

theorem IsImport.endsBlock_append (formed : IsImport rows) (above : List Text) :
    EndsBlock (above ++ rows) := by
  obtain ⟨upper, last, rfl, begins, goesOn, ends⟩ := formed.exists_concat
  exact Code.endsBlock_append begins goesOn ends above

/-- The content with an import inserted that it does not hold. -/
theorem insert?_import {content : Text} (missing : contains content fragment = false) :
    ∃ locator, Primitive.importStatement.insert? content fragment = some
      ⟨joinLines ((contentRows content).take (importPlace (contentRows content)) ++
          rendered fragment [] ++
            (contentRows content).drop (importPlace (contentRows content))) ++
        if content.isEmpty || content.getLast? = some '\n' then ['\n'] else [], some locator⟩ := by
  obtain ⟨locator, found⟩ := firstAnchor?_import (contentRows content)
  refine ⟨locator, ?_⟩
  have plain (rows : List Text) (anchor : Anchor) : splice rows anchor fragment false =
      rows.take anchor.index ++ rendered fragment anchor.indent ++ rows.drop anchor.index := by
    simp [splice]
  rw [Primitive.insert?, insert?, missing, if_neg Bool.false_ne_true, found, Option.map_some]
  dsimp only [Primitive.pads]
  rw [plain]
  split
  · rfl
  · rw [List.append_nil]

end GuidedMigration.Code
