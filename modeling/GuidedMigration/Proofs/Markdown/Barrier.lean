/-
This file shows that no block goes on past a row at which a fence starts. Whatever is read, a
paragraph, a heading with its underline, a table, a quote, or the definition of a link, it ends at
that row or before.
-/
import GuidedMigration.Markdown.Block

namespace GuidedMigration.Markdown.Frame

open Text

variable {frame : Frame} {first index stop last fuel : Nat}

/-- A row at which a fence starts, in a frame whose dialect knows fences. -/
structure IsBarrier (frame : Frame) (row : Row) : Prop where
  spoken : frame.dialect.isPlain = false
  solid : row.isEmpty = false
  inside : 0 ≤ row.column
  fenced : (frame.fence? row).isSome = true

namespace IsBarrier

variable {row : Row}

theorem isCode_eq (barrier : frame.IsBarrier row) : frame.isCode row = false := by
  cases code : frame.isCode row with
  | false => rfl
  | true => simpa [fence?, code] using barrier.fenced

/-- A fence is made of backticks or tildes. -/
theorem exists_content (barrier : frame.IsBarrier row) :
    ∃ mark rest, row.content = mark :: rest ∧ (mark = '\x60' ∨ mark = '~') := by
  have fenced := barrier.fenced
  rw [fence?, barrier.isCode_eq, if_neg Bool.false_ne_true] at fenced
  split at fenced
  · rename_i mark rest content
    split at fenced
    · rename_i marked
      exact ⟨mark, rest, content, by simpa using marked⟩
    · simp at fenced
  · simp at fenced

theorem not_deep (barrier : frame.IsBarrier row) : ¬ 3 < row.column - frame.indent := by
  have code := barrier.isCode_eq
  rw [isCode, barrier.spoken, Bool.not_false, Bool.true_and, decide_eq_false_iff_not] at code
  omega

theorem endsItem_eq (barrier : frame.IsBarrier row) : frame.endsItem row = true := by
  simp [endsItem, barrier.spoken, barrier.fenced]

theorem endsQuote_eq (barrier : frame.IsBarrier row) (inParagraph : Bool) :
    frame.endsQuote inParagraph row = true := by
  simp [endsQuote, barrier.spoken, barrier.endsItem_eq]

theorem isColumnRow_eq (barrier : frame.IsBarrier row) : frame.isColumnRow row = false := by
  obtain ⟨mark, rest, content, rfl | rfl⟩ := barrier.exists_content <;>
    cases rest <;> simp [isColumnRow, content]

theorem underline?_eq (barrier : frame.IsBarrier row) : frame.underline? row = none := by
  obtain ⟨mark, rest, content, rfl | rfl⟩ := barrier.exists_content <;>
    simp [underline?, content]

end IsBarrier

theorem endsProse_eq {start : Nat} (barrier : frame.IsBarrier (frame.row start))
    (inParagraph : Bool) : frame.endsProse inParagraph start last = true := by
  rw [endsProse, barrier.endsQuote_eq, Bool.true_or]

/-- Whether an index comes behind the rows from another one on, but not behind that of a fence. -/
structure IsWithin (frame : Frame) (first next : Nat) : Prop where
  reaches : first ≤ next
  stops : ∀ start, first ≤ start → frame.IsBarrier (frame.row start) → next ≤ start

namespace IsWithin

theorem refl (frame : Frame) (first : Nat) : frame.IsWithin first first :=
  ⟨Nat.le_refl first, fun _ from' _ => from'⟩

/-- One may go on behind a row at which no fence starts. -/
theorem succ (within : frame.IsWithin first index)
    (free : frame.IsBarrier (frame.row index) → False) : frame.IsWithin first (index + 1) where
  reaches := Nat.le_succ_of_le within.reaches
  stops start from' barrier :=
    Nat.lt_of_le_of_ne (within.stops start from' barrier) fun same => free (same ▸ barrier)

end IsWithin

/-! ### Empty rows, paragraphs and headings -/

theorem isWithin_skipEmpty (within : frame.IsWithin first index) :
    frame.IsWithin first (frame.skipEmpty fuel index) := by
  induction fuel generalizing index with
  | zero => exact within
  | succ fuel inductionHypothesis =>
    rw [skipEmpty]
    split
    · rename_i skipped
      exact inductionHypothesis (within.succ fun barrier => by simp [barrier.solid] at skipped)
    · exact within

theorem isWithin_paragraphEnd (within : frame.IsWithin first index) :
    frame.IsWithin first (frame.paragraphEnd fuel index) := by
  induction fuel generalizing index with
  | zero => exact within
  | succ fuel inductionHypothesis =>
    rw [paragraphEnd]
    split
    · exact within
    · split
      · rename_i deep
        refine inductionHypothesis (within.succ fun barrier => ?_)
        rw [Bool.or_eq_true, decide_eq_true_eq, decide_eq_true_eq] at deep
        exact deep.elim barrier.not_deep (Int.not_lt.mpr barrier.inside)
      · split
        · exact within
        · rename_i goesOn
          exact inductionHypothesis (within.succ fun barrier => goesOn (endsProse_eq barrier true))

/-- No fence starts at the row that underlines a heading. -/
theorem isWithin_of_underlined? {level place : Nat} (within : frame.IsWithin first index)
    (found : frame.underlined? last fuel index = some (level, place)) :
    frame.IsWithin first (place + 1) ∧ place < last := by
  induction fuel generalizing index with
  | zero => simp [underlined?] at found
  | succ fuel inductionHypothesis =>
    rw [underlined?] at found
    split at found
    · simp at found
    · rename_i inside
      simp only [Bool.or_eq_true, decide_eq_true_eq, not_or, Nat.not_le] at inside
      split at found
      · rename_i deep
        exact inductionHypothesis (within.succ fun barrier => barrier.not_deep deep) found
      · cases underlines : frame.underline? (frame.row index) with
        | some level' =>
          rw [underlines] at found
          obtain ⟨-, rfl⟩ := Prod.mk.inj (Option.some.inj found)
          exact ⟨within.succ fun barrier => by simp [barrier.underline?_eq] at underlines, inside.1⟩
        | none =>
          rw [underlines] at found
          dsimp only at found
          split at found
          · rename_i outside
            exact inductionHypothesis
              (within.succ fun barrier => Int.not_lt.mpr barrier.inside outside) found
          · split at found
            · simp at found
            · rename_i goesOn
              exact inductionHypothesis
                (within.succ fun barrier => goesOn (endsProse_eq barrier true)) found

/-! ### Indented code and tables -/

theorem isWithin_codeEnd (ends : frame.IsWithin first last) (within : frame.IsWithin first index) :
    frame.IsWithin first (frame.codeEnd stop fuel last index) := by
  induction fuel generalizing last index with
  | zero => exact ends
  | succ fuel inductionHypothesis =>
    rw [codeEnd]
    split
    · exact ends
    · dsimp only
      split
      · rename_i empty
        exact inductionHypothesis ends (within.succ fun barrier => by simp [barrier.solid] at empty)
      · split
        · rename_i code
          have next := within.succ fun barrier => by simp [barrier.isCode_eq] at code
          exact inductionHypothesis next next
        · exact ends

/-- No fence starts at the second row of a table. -/
theorem isWithin_of_tableHead? {head : List Text} (within : frame.IsWithin first (index + 1))
    (found : frame.tableHead? index last = some head) : frame.IsWithin first (index + 2) := by
  rw [tableHead?] at found
  dsimp only at found
  split at found
  · simp at found
  · rename_i fits
    exact within.succ fun barrier => by simp [barrier.isColumnRow_eq] at fits

theorem isWithin_tableBody {count : Nat} {filled : Int} {done : List Text}
    (within : frame.IsWithin first index) :
    frame.IsWithin first (frame.tableBody count stop fuel filled index done).1 := by
  induction fuel generalizing filled index done with
  | zero => exact within
  | succ fuel inductionHypothesis =>
    rw [tableBody]
    dsimp only
    split
    · exact within
    · rename_i goesOn
      split
      · exact within
      · exact inductionHypothesis
          (within.succ fun barrier => by simp [barrier.endsQuote_eq] at goesOn)

/-! ### Quotes -/

theorem isWithin_quoteRows {isOpen : Bool} {rows : Array Row}
    (within : frame.IsWithin first index) :
    frame.IsWithin first (frame.quoteRows stop fuel index isOpen rows).2.1 := by
  induction fuel generalizing index isOpen rows with
  | zero => exact within
  | succ fuel inductionHypothesis =>
    rw [quoteRows]
    dsimp only
    split
    · exact within
    · split
      · rename_i quoted
        refine inductionHypothesis (within.succ fun barrier => ?_)
        obtain ⟨mark, rest, content, rfl | rfl⟩ := barrier.exists_content <;>
          simp [content] at quoted
      · split
        · exact within
        · split
          · exact within
          · rename_i goesOn
            exact inductionHypothesis
              (within.succ fun barrier => goesOn (barrier.endsQuote_eq false))

/-! ### Definitions of links -/

theorem nextLine?_eq_none {start : Nat} (barrier : frame.IsBarrier (frame.row start)) :
    frame.nextLine? start = none := by
  rw [nextLine?]
  split
  · rfl
  · simp [barrier.isCode_eq, barrier.inside, endsProse_eq barrier]

theorem isWithin_succ_of_nextLine? {line : Text} (within : frame.IsWithin first index)
    (taken : frame.nextLine? index = some line) : frame.IsWithin first (index + 1) :=
  within.succ fun barrier => by simp [nextLine?_eq_none barrier] at taken

namespace Place

variable {place behind : Place}

theorem isWithin_behindNewline {rest : Text} (within : frame.IsWithin first index) :
    frame.IsWithin first (behindNewline frame index rest).next := by
  rw [behindNewline]
  split
  · rename_i taken
    exact isWithin_succ_of_nextLine? within taken
  · exact within

theorem isWithin_of_label? {label : Text} (within : frame.IsWithin first place.next)
    (found : label? frame fuel place = some (label, behind)) :
    frame.IsWithin first behind.next := by
  induction fuel generalizing place label behind with
  | zero => simp [label?] at found
  | succ fuel inductionHypothesis =>
    rw [label?] at found
    split at found
    · simp at found
    · obtain ⟨⟨inner, place'⟩, read, same⟩ := Option.map_eq_some_iff.mp found
      obtain ⟨-, rfl⟩ := Prod.mk.inj same
      exact inductionHypothesis (isWithin_behindNewline within) read
    · obtain ⟨⟨inner, place'⟩, read, same⟩ := Option.map_eq_some_iff.mp found
      obtain ⟨-, rfl⟩ := Prod.mk.inj same
      refine inductionHypothesis ?_ read
      exact within
    · split at found
      · simp at found
      · split at found
        · obtain ⟨-, rfl⟩ := Prod.mk.inj (Option.some.inj found)
          exact within
        · obtain ⟨⟨inner, place'⟩, read, same⟩ := Option.map_eq_some_iff.mp found
          obtain ⟨-, rfl⟩ := Prod.mk.inj same
          refine inductionHypothesis ?_ read
          split
          · exact isWithin_behindNewline within
          · exact within

theorem isWithin_skipGap (within : frame.IsWithin first place.next) :
    frame.IsWithin first (skipGap frame fuel place).next := by
  induction fuel generalizing place with
  | zero => exact within
  | succ fuel inductionHypothesis =>
    rw [skipGap]
    split
    · exact within
    · split
      · exact inductionHypothesis (isWithin_behindNewline within)
      · split
        · exact inductionHypothesis within
        · exact within

theorem isWithin_of_titleFrom? {stop : Char} {hasText hasText' : Bool}
    (within : frame.IsWithin first place.next)
    (found : titleFrom? frame stop fuel hasText place = some (hasText', behind)) :
    frame.IsWithin first behind.next := by
  induction fuel generalizing place hasText with
  | zero => simp [titleFrom?] at found
  | succ fuel inductionHypothesis =>
    rw [titleFrom?] at found
    split at found
    · obtain ⟨-, rfl⟩ := Prod.mk.inj (Option.some.inj found)
      exact within
    · simp at found
    · split at found
      · rename_i taken
        refine inductionHypothesis ?_ found
        exact isWithin_succ_of_nextLine? within taken
      · simp at found

theorem isWithin_of_title? {hasGap hasText : Bool} (within : frame.IsWithin first place.next)
    (found : title? frame fuel hasGap place = some (hasText, behind)) :
    frame.IsWithin first behind.next := by
  rw [title?] at found
  split at found
  · split at found
    · refine isWithin_of_titleFrom? ?_ (Option.filter_eq_some_iff.mp found).1
      exact within
    · simp at found
  · simp at found

theorem isWithin_of_definitionEnd? (within : frame.IsWithin first place.next)
    (found : definitionEnd? frame fuel place = some last) : frame.IsWithin first last := by
  rw [definitionEnd?] at found
  split at found
  · rename_i title
    have titled := isWithin_of_title? (isWithin_skipGap within) title
    split at found
    · exact Option.some.inj found ▸ titled
    · split at found
      · exact Option.some.inj found ▸ within
      · simp at found
  · split at found
    · exact Option.some.inj found ▸ within
    · simp at found

end Place

theorem isWithin_of_definition? {label target : Text} (within : frame.IsWithin first (index + 1))
    (found : frame.definition? index = some (label, target, last)) : frame.IsWithin first last := by
  rw [definition?] at found
  dsimp only at found
  split at found
  · split at found
    · simp at found
    · split at found
      · rename_i labelled
        have labelled := Place.isWithin_of_label? within labelled
        split at found
        · obtain ⟨_, -, found⟩ := Option.bind_eq_some_iff.mp found
          obtain ⟨reached, ended, found⟩ := Option.bind_eq_some_iff.mp found
          split at found
          · simp at found
          · obtain ⟨-, same⟩ := Prod.mk.inj (Option.some.inj found)
            obtain ⟨-, rfl⟩ := Prod.mk.inj same
            refine Place.isWithin_of_definitionEnd? ?_ ended
            refine Place.isWithin_skipGap ?_
            exact labelled
        · simp at found
      · simp at found
  · simp at found

end GuidedMigration.Markdown.Frame
