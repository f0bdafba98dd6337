/-
This file says what may be left of a line in a row. What quotes and list items cut off is made of
their marks and of blanks, so where the content of a row starts with any other character, it is what
follows all marks and blanks at the start of the line. And the marks and blanks that are left bound
how deep further blocks can be nested.
-/
import GuidedMigration.Markdown.Block

namespace GuidedMigration.Markdown

open Text

/-! ### Starts of texts -/

theorem drop_length_takeWhile (holds : Char → Bool) (text : Text) :
    text.drop (text.takeWhile holds).length = text.dropWhile holds := by
  have split := @List.drop_left _ (text.takeWhile holds) (text.dropWhile holds)
  rwa [List.takeWhile_append_dropWhile] at split

theorem takeWhile_eq_replicate (mark : Char) (text : Text) :
    text.takeWhile (· = mark) = List.replicate (text.takeWhile (· = mark)).length mark := by
  refine List.eq_replicate_iff.mpr ⟨rfl, fun char member => ?_⟩
  simpa using List.all_eq_true.mp List.all_takeWhile char member

/-! ### Marginal characters -/

/-- The characters of which the marks of quotes and list items consist, and blanks. -/
def isMarginal (char : Char) : Bool :=
  isSpaceOrTab char || isAsciiDigit char || ['>', '-', '+', '*', '.', ')'].contains char

/-- How many columns the marks and blanks at the start of a text take, and so how deep blocks in it
can be nested. -/
def nesting : Text → Nat
  | [] => 0
  | char :: text =>
    if char = '\t' then 4 + nesting text
    else if char = ' ' || char = '>' || char = '.' || char = ')' || isAsciiDigit char ||
        ((char = '-' || char = '+' || char = '*') && Frame.mayFollowMark text) then
      1 + nesting text
    else 0

theorem nesting_blank {char : Char} (blank : isSpaceOrTab char = true) (text : Text) :
    1 + nesting text ≤ nesting (char :: text) := by
  rw [isSpaceOrTab, Bool.or_eq_true, decide_eq_true_eq, decide_eq_true_eq] at blank
  rcases blank with rfl | rfl <;> simp [nesting]

/-- The columns that a blank takes are counted in full. -/
theorem nextColumn_le {char : Char} (blank : isSpaceOrTab char = true) (base column : Nat)
    (text : Text) :
    column < Row.nextColumn base column char ∧
      Row.nextColumn base column char + nesting text ≤ column + nesting (char :: text) := by
  rw [isSpaceOrTab, Bool.or_eq_true, decide_eq_true_eq, decide_eq_true_eq] at blank
  rcases blank with rfl | rfl <;> simp [nesting, Row.nextColumn] <;> omega

namespace Row

theorem measure_fst (base column : Nat) (text : Text) :
    (measure base column text).1 = (text.takeWhile isSpaceOrTab).length := by
  induction text generalizing column with
  | nil => rfl
  | cons char text inductionHypothesis =>
    rw [measure]
    cases blank : isSpaceOrTab char with
    | true => simp [blank, inductionHypothesis]
    | false => simp [blank]

theorem drop_measure (base column : Nat) (text : Text) :
    text.drop (measure base column text).1 = text.dropWhile isSpaceOrTab := by
  rw [measure_fst, drop_length_takeWhile]

/-- What is measured and what may be nested behind it are no more columns than there were. -/
theorem measure_snd (base column : Nat) (text : Text) :
    column + (measure base column text).1 ≤ (measure base column text).2 ∧
      (measure base column text).2 + nesting (text.dropWhile isSpaceOrTab) ≤
        column + nesting text := by
  induction text generalizing column with
  | nil => simp [measure]
  | cons char text inductionHypothesis =>
    rw [measure]
    cases blank : isSpaceOrTab char with
    | true =>
      have next := nextColumn_le blank base column text
      have further := inductionHypothesis (nextColumn base column char)
      simp only [if_true, List.dropWhile_cons_of_pos blank]
      omega
    | false => simp [blank]

theorem measure_spaces (base column count : Nat) {rest : Text}
    (solid : rest.head?.all (!isSpaceOrTab ·) = true) :
    measure base column (List.replicate count ' ' ++ rest) = (count, column + count) := by
  induction count generalizing column with
  | zero =>
    cases rest with
    | nil => rfl
    | cons char rest =>
      have other : isSpaceOrTab char = false := by simpa using solid
      simp [measure, other]
  | succ count inductionHypothesis =>
    have space : isSpaceOrTab ' ' = true := by decide
    rw [List.replicate_succ, List.cons_append, measure, if_pos space]
    rw [inductionHypothesis]
    simp [nextColumn]
    omega

/-! ### What is left of a line -/

/-- Whether the content of a row is what is left of a line behind marks and blanks. -/
def IsLeftOf (line : Text) (row : Row) : Prop :=
  ∃ before, line = before ++ row.content ∧ before.all isMarginal = true

theorem isMarginal_of_blank {char : Char} (blank : isSpaceOrTab char = true) :
    isMarginal char = true := by
  rw [isMarginal, blank, Bool.true_or, Bool.true_or]

theorem all_isMarginal_takeWhile (text : Text) :
    (text.takeWhile isSpaceOrTab).all isMarginal = true :=
  List.all_eq_true.mpr fun char member =>
    isMarginal_of_blank (List.all_eq_true.mp List.all_takeWhile char member)

/-- What is left of what is left of a line. -/
theorem IsLeftOf.further {line before behind : Text} {row inner : Row} (left : row.IsLeftOf line)
    (content : row.content = before ++ behind) (marginal : before.all isMarginal = true)
    (same : inner.content = behind.dropWhile isSpaceOrTab) : inner.IsLeftOf line := by
  obtain ⟨cut, rfl, cutMarginal⟩ := left
  refine ⟨cut ++ (before ++ behind.takeWhile isSpaceOrTab), ?_, ?_⟩
  · rw [same, content, List.append_assoc, List.append_assoc, List.takeWhile_append_dropWhile]
  · rw [List.all_append, List.all_append, cutMarginal, marginal, all_isMarginal_takeWhile]
    rfl

/-- A content that starts with another character than marks and blanks is all that follows them. -/
theorem IsLeftOf.content_eq {line : Text} {row : Row} (left : row.IsLeftOf line) {char : Char}
    {rest : Text} (content : row.content = char :: rest) (other : isMarginal char = false) :
    row.content = line.dropWhile isMarginal := by
  obtain ⟨cut, rfl, marginal⟩ := left
  rw [List.dropWhile_append_of_pos fun char member => List.all_eq_true.mp marginal char member,
    content, List.dropWhile_cons_of_neg (by simp [other])]

theorem content_ofLine (line : Text) (isClosed : Bool) :
    (ofLine line isClosed).content = line.dropWhile isSpaceOrTab :=
  drop_measure 0 0 line

theorem isLeftOf_ofLine (line : Text) (isClosed : Bool) : (ofLine line isClosed).IsLeftOf line :=
  ⟨line.takeWhile isSpaceOrTab, by rw [content_ofLine, List.takeWhile_append_dropWhile],
    all_isMarginal_takeWhile line⟩

theorem isEmpty_iff {row : Row} : row.isEmpty = true ↔ row.content = [] := by
  simp [isEmpty, content]

theorem isEmpty_ofLine (line : Text) (isClosed : Bool) :
    (ofLine line isClosed).isEmpty = line.all isSpaceOrTab := by
  rw [Bool.eq_iff_iff, isEmpty_iff, content_ofLine]
  induction line with
  | nil => simp
  | cons char line inductionHypothesis =>
    cases blank : isSpaceOrTab char with
    | true =>
      rw [List.dropWhile_cons_of_pos blank, inductionHypothesis, List.all_cons, blank,
        Bool.true_and]
    | false => simp [blank]

/-! ### Quotes -/

/-- A row behind the mark of a quote is measured, with or without the blank behind the mark. -/
theorem exists_unquote {row : Row} {behind : Text} (content : row.content = '>' :: behind) :
    ∃ text base start,
      (text = behind ∨ ∃ char, isSpaceOrTab char = true ∧ behind = char :: text) ∧
      row.unquote.content = text.drop (measure base start text).1 ∧
      row.unquote.column = ((measure base start text).2 : Int) - (start : Nat) := by
  have cut : row.text.drop (row.margin + 1) = behind := by
    rw [← List.drop_drop]
    show row.content.drop 1 = behind
    rw [content]
    rfl
  unfold unquote
  dsimp only
  rw [cut]
  split
  · exact ⟨_, _, _, .inr ⟨' ', by decide, rfl⟩, rfl, rfl⟩
  · split
    · exact ⟨_, _, _, .inr ⟨'\t', by decide, rfl⟩, rfl, rfl⟩
    · exact ⟨_, _, _, .inl rfl, rfl, rfl⟩
  · exact ⟨_, _, _, .inl rfl, rfl, rfl⟩

/-- Behind the mark of a quote the blanks count as nested columns. -/
theorem unquote_spec {row : Row} {behind : Text} (content : row.content = '>' :: behind) :
    row.unquote.content = behind.dropWhile isSpaceOrTab ∧ 0 ≤ row.unquote.column ∧
      row.unquote.column + nesting row.unquote.content ≤ nesting behind := by
  obtain ⟨text, base, start, shape, inner, column⟩ := exists_unquote content
  rw [drop_measure] at inner
  have measured := measure_snd base start text
  rcases shape with rfl | ⟨char, blank, rfl⟩
  · rw [inner, column]
    exact ⟨rfl, by omega, by omega⟩
  · have skipped := nesting_blank blank text
    rw [inner, column, List.dropWhile_cons_of_pos blank]
    exact ⟨rfl, by omega, by omega⟩

end Row

/-! ### Items -/

theorem nesting_digits {digits : Text} (all : digits.all isAsciiDigit = true) (text : Text) :
    nesting (digits ++ text) = digits.length + nesting text := by
  induction digits with
  | nil => simp
  | cons digit digits inductionHypothesis =>
    rw [List.all_cons, Bool.and_eq_true] at all
    have other : digit ≠ '\t' := by
      rintro rfl
      exact absurd all.1 (by decide)
    rw [List.cons_append, nesting, if_neg other, all.1, Bool.or_true, Bool.true_or, if_pos rfl,
      inductionHypothesis all.2, List.length_cons]
    omega

/-- The mark of an item takes as many columns as it has characters. -/
theorem itemMark?_spec {text : Text} {mark : Frame.ItemMark}
    (found : Frame.itemMark? text = some mark) :
    1 ≤ mark.size ∧ (text.take mark.size).all isMarginal = true ∧
      Frame.mayFollowMark (text.drop mark.size) = true ∧
      nesting text = mark.size + nesting (text.drop mark.size) := by
  cases text with
  | nil => simp [Frame.itemMark?] at found
  | cons first rest =>
    rw [Frame.itemMark?] at found
    split at found
    · rename_i bullet
      split at found
      · rename_i follows
        obtain rfl := Option.some.inj found
        simp only [Bool.or_eq_true, decide_eq_true_eq] at bullet
        rcases bullet with (rfl | rfl) | rfl <;> simp [follows, nesting] <;> decide
      · simp at found
    · dsimp only at found
      generalize split' : first :: rest = text at found ⊢
      have digits : text = text.takeWhile isAsciiDigit ++
          text.drop (text.takeWhile isAsciiDigit).length := by
        rw [drop_length_takeWhile, List.takeWhile_append_dropWhile]
      split at found
      · rename_i mark' behind shape
        split at found
        · rename_i numbered
          simp only [Bool.and_eq_true, Bool.or_eq_true, decide_eq_true_eq] at numbered
          obtain rfl := Option.some.inj found
          have all : (text.takeWhile isAsciiDigit).all isAsciiDigit = true := List.all_takeWhile
          rw [shape] at digits
          generalize text.takeWhile isAsciiDigit = number at digits all
          obtain ⟨⟨-, marked⟩, follows⟩ := numbered
          subst digits
          have marginal : number.all isMarginal = true := List.all_eq_true.mpr fun char member => by
            rw [isMarginal, List.all_eq_true.mp all char member, Bool.or_true, Bool.true_or]
          have cut : (number ++ mark' :: behind).drop (number.length + 1) = behind := by
            rw [← List.drop_drop, List.drop_left]
            rfl
          have kept : (number ++ mark' :: behind).take (number.length + 1) = number ++ [mark'] := by
            rw [List.take_append, List.take_of_length_le (by omega)]
            simp
          dsimp only
          rw [cut, kept, nesting_digits all, List.all_append, marginal]
          rcases marked with rfl | rfl <;> simp [nesting, follows, Nat.add_assoc] <;> decide
        · simp at found
      · simp at found

end GuidedMigration.Markdown
