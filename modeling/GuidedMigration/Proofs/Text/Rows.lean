/-
This file cuts a text at its newlines. A text and its rows determine each other, and rows that are
joined again have at least as many newlines as there are between them. What a text starts with, what
occurs in it and which blanks are trimmed from it is known as well when other text stands beside it.
What holds of the characters of ASCII is settled by going through them; its classes of letters and
digits hold no others. A list of texts loses its duplicates and nothing else.
-/
import GuidedMigration.Text.Character
import GuidedMigration.Text.Lines

namespace GuidedMigration.Text

/-! ### Cutting and joining -/

theorem splitOn_ne_nil (mark : Char) (text : Text) : splitOn mark text ≠ [] := by
  induction text with
  | nil => simp [splitOn]
  | cons char text inductionHypothesis =>
    rw [splitOn]
    split
    · simp
    · split <;> simp

theorem splitOn_of_not_mem {mark : Char} {text : Text} (missing : mark ∉ text) :
    splitOn mark text = [text] := by
  induction text with
  | nil => rfl
  | cons char text inductionHypothesis =>
    simp only [List.mem_cons, not_or] at missing
    rw [splitOn, if_neg (Ne.symm missing.1), inductionHypothesis missing.2]

/-- A text is cut at a mark whatever stands on either side of it. -/
theorem splitOn_append (mark : Char) (left right : Text) :
    splitOn mark (left ++ mark :: right) = splitOn mark left ++ splitOn mark right := by
  induction left with
  | nil => simp [splitOn]
  | cons char left inductionHypothesis =>
    obtain ⟨part, parts, split⟩ := List.exists_cons_of_ne_nil (splitOn_ne_nil mark left)
    by_cases marked : char = mark
    · simp [splitOn, marked, inductionHypothesis]
    · simp [splitOn, marked, inductionHypothesis, split]

theorem joinWith_cons {mark part : Text} {parts : List Text} (more : parts ≠ []) :
    joinWith mark (part :: parts) = part ++ mark ++ joinWith mark parts := by
  obtain ⟨next, parts, rfl⟩ := List.exists_cons_of_ne_nil more
  rw [joinWith]

theorem joinLines_cons {row : Text} {rows : List Text} (more : rows ≠ []) :
    joinLines (row :: rows) = row ++ '\n' :: joinLines rows := by
  rw [joinLines, joinWith_cons more, List.append_assoc]
  rfl

/-- The parts of a text between the occurrences of a mark, joined again, are the text. -/
theorem joinWith_splitOn (mark : Char) (text : Text) :
    joinWith [mark] (splitOn mark text) = text := by
  induction text with
  | nil => rfl
  | cons char text inductionHypothesis =>
    obtain ⟨part, parts, split⟩ := List.exists_cons_of_ne_nil (splitOn_ne_nil mark text)
    rw [split] at inductionHypothesis
    by_cases marked : char = mark
    · rw [splitOn, if_pos marked, split, joinWith_cons (by simp), inductionHypothesis, marked]
      rfl
    · rw [splitOn, if_neg marked, split]
      cases parts with
      | nil => simpa [joinWith] using inductionHypothesis
      | cons next parts =>
        rw [joinWith_cons (by simp)] at inductionHypothesis ⊢
        rw [List.cons_append, List.cons_append, inductionHypothesis]

/-- The rows of a text, joined again, are the text. -/
theorem joinLines_splitOn (text : Text) : joinLines (splitOn '\n' text) = text :=
  joinWith_splitOn '\n' text

/-- Parts between marks are found again if none of them has the mark. -/
theorem splitOn_joinWith {mark : Char} {parts : List Text} (some' : parts ≠ [])
    (clean : ∀ part ∈ parts, mark ∉ part) : splitOn mark (joinWith [mark] parts) = parts := by
  induction parts with
  | nil => exact absurd rfl some'
  | cons part parts inductionHypothesis =>
    have first := splitOn_of_not_mem (clean part List.mem_cons_self)
    cases parts with
    | nil => simpa [joinWith] using first
    | cons next parts =>
      rw [joinWith, List.append_assoc, List.singleton_append, splitOn_append, first,
        inductionHypothesis (by simp) fun other member =>
          clean other (List.mem_cons_of_mem part member)]
      rfl

/-- Rows without newlines are found again in the text that they are joined to. -/
theorem splitOn_joinLines {rows : List Text} (some' : rows ≠ [])
    (clean : ∀ row ∈ rows, '\n' ∉ row) : splitOn '\n' (joinLines rows) = rows :=
  splitOn_joinWith some' clean

theorem not_mem_of_mem_splitOn {mark : Char} {text row : Text} (member : row ∈ splitOn mark text) :
    mark ∉ row := by
  induction text generalizing row with
  | nil => simp_all [splitOn]
  | cons char text inductionHypothesis =>
    obtain ⟨first, rows, split⟩ := List.exists_cons_of_ne_nil (splitOn_ne_nil mark text)
    rw [split] at inductionHypothesis
    by_cases marked : char = mark
    · rw [splitOn, if_pos marked, split] at member
      rcases List.mem_cons.mp member with rfl | behind
      · simp
      · exact inductionHypothesis behind
    · rw [splitOn, if_neg marked, split] at member
      rcases List.mem_cons.mp member with rfl | behind
      · have clean := inductionHypothesis List.mem_cons_self
        simp [clean, Ne.symm marked]
      · exact inductionHypothesis (List.mem_cons_of_mem _ behind)

/-! ### Counting newlines -/

theorem length_splitOn (mark : Char) (text : Text) :
    (splitOn mark text).length = text.count mark + 1 := by
  induction text with
  | nil => rfl
  | cons char text inductionHypothesis =>
    obtain ⟨part, parts, split⟩ := List.exists_cons_of_ne_nil (splitOn_ne_nil mark text)
    rw [split, List.length_cons] at inductionHypothesis
    by_cases marked : char = mark
    · simp [splitOn, marked, split, inductionHypothesis]
    · simp [splitOn, marked, split, inductionHypothesis]

/-- Joined rows have a newline between any two. -/
theorem length_le_count_joinLines (rows : List Text) :
    rows.length ≤ (joinLines rows).count '\n' + 1 := by
  induction rows with
  | nil => simp
  | cons row rows inductionHypothesis =>
    cases rows with
    | nil => simp
    | cons next rows =>
      rw [joinLines_cons (by simp), List.count_append, List.count_cons_self]
      simp only [List.length_cons] at inductionHypothesis ⊢
      omega

/-- A carriage return that is read as a newline only adds to the newlines. -/
theorem count_le_count_unifyNewlines (text : Text) :
    text.count '\n' ≤ (unifyNewlines text).count '\n' := by
  induction text using unifyNewlines.induct with
  | case1 => exact Nat.le_refl 0
  | case2 text inductionHypothesis =>
    rw [unifyNewlines]
    simpa using inductionHypothesis
  | case3 char text notPair inductionHypothesis =>
    rw [unifyNewlines]
    · split
      · rename_i carriage
        rw [carriage, List.count_cons_self, List.count_cons_of_ne (by decide)]
        exact Nat.le_succ_of_le inductionHypothesis
      · rw [List.count_cons, List.count_cons]
        exact Nat.add_le_add_right inductionHypothesis _
    · exact notPair

theorem unifyNewlines_of_not_mem {text : Text} (missing : '\r' ∉ text) :
    unifyNewlines text = text := by
  induction text using unifyNewlines.induct with
  | case1 => rfl
  | case2 text => simp at missing
  | case3 char text notPair inductionHypothesis =>
    rw [List.mem_cons, not_or] at missing
    rw [unifyNewlines, inductionHypothesis missing.2, if_neg (Ne.symm missing.1)]
    exact notPair

theorem not_mem_unifyNewlines (text : Text) : '\r' ∉ unifyNewlines text := by
  induction text using unifyNewlines.induct with
  | case1 => simp [unifyNewlines]
  | case2 text inductionHypothesis => simpa [unifyNewlines] using inductionHypothesis
  | case3 char text notPair inductionHypothesis =>
    rw [unifyNewlines]
    · rw [List.mem_cons, not_or]
      refine ⟨?_, inductionHypothesis⟩
      split
      · decide
      · exact fun same => absurd same.symm ‹_›
    · exact notPair

/-! ### Occurrence -/

theorem dropPrefix?_append (start text : Text) : dropPrefix? start (start ++ text) = some text := by
  induction start with
  | nil => rfl
  | cons char start inductionHypothesis => simp [dropPrefix?, inductionHypothesis]

theorem dropPrefix?_eq_some {start text more : Text} (found : dropPrefix? start text = some more) :
    text = start ++ more := by
  induction start generalizing text with
  | nil => exact (Option.some.inj found)
  | cons first start inductionHypothesis =>
    cases text with
    | nil => simp [dropPrefix?] at found
    | cons char text =>
      rw [dropPrefix?] at found
      split at found
      · next same => rw [same, List.cons_append, inductionHypothesis found]
      · simp at found

/-- What stands in the middle of a text occurs in it. -/
theorem occursIn_append (before part behind : Text) :
    occursIn part (before ++ part ++ behind) = true := by
  induction before with
  | nil =>
    have starts : startsWith part (part ++ behind) = true := by
      rw [startsWith, dropPrefix?_append]
      rfl
    rw [List.nil_append]
    cases text : part ++ behind with
    | nil => simp [occursIn, (List.append_eq_nil_iff.mp text).1]
    | cons char rest =>
      rw [text] at starts
      rw [occursIn, starts, Bool.true_or]
  | cons char before inductionHypothesis =>
    rw [List.cons_append, List.cons_append, occursIn, inductionHypothesis, Bool.or_true]

theorem occursIn_iff {part text : Text} : occursIn part text = true ↔ part <:+: text := by
  constructor
  · intro occurs
    induction text with
    | nil =>
      obtain rfl : part = [] := List.isEmpty_iff.mp occurs
      exact List.nil_infix
    | cons char text inductionHypothesis =>
      rw [occursIn, Bool.or_eq_true, startsWith, Option.isSome_iff_exists] at occurs
      rcases occurs with ⟨more, found⟩ | within
      · rw [dropPrefix?_eq_some found]
        exact List.infix_append_left
      · exact List.infix_cons (inductionHypothesis within)
  · rintro ⟨before, behind, rfl⟩
    exact occursIn_append before part behind

/-! ### Blanks -/

/-- A line break is blank. -/
theorem isBlank_of_isLineBreak {char : Char} (breaks : isLineBreak char = true) :
    isBlank char = true := by
  simp only [isLineBreak, Bool.or_eq_true, Bool.and_eq_true, decide_eq_true_eq] at breaks
  simp only [isBlank]
  split <;> simp <;> omega

theorem isBlankText_append (left right : Text) :
    isBlankText (left ++ right) = (isBlankText left && isBlankText right) := by
  simp [isBlankText]

theorem trim_append_left {blanks : Text} (blank : isBlankText blanks = true) (text : Text) :
    trim (blanks ++ text) = trim text := by
  have dropped : trimLeftWhile isBlank (blanks ++ text) = trimLeftWhile isBlank text := by
    induction blanks with
    | nil => rfl
    | cons char blanks inductionHypothesis =>
      simp only [isBlankText, List.all_cons, Bool.and_eq_true] at blank
      rw [List.cons_append, trimLeftWhile, List.dropWhile_cons_of_pos blank.1]
      exact inductionHypothesis blank.2
  rw [trim, trim, trimWhile, trimWhile, dropped]

end GuidedMigration.Text

namespace GuidedMigration.Text

variable {char : Char}

/-- What holds of the first 128 characters holds of each of them. -/
theorem of_ascii (holds : Char → Bool)
    (all : ((List.range 128).all fun code => holds (Char.ofNat code)) = true)
    (small : char.toNat < 128) : holds char = true := by
  have here := List.all_eq_true.mp all _ (List.mem_range.mpr small)
  rwa [Char.ofNat_toNat] at here

theorem toNat_le_of_le {first second : Char} (le : first ≤ second) :
    first.toNat ≤ second.toNat := le

theorem toNat_of_isAsciiUpper (upper : isAsciiUpper char = true) : char.toNat < 128 := by
  rw [isAsciiUpper, Bool.and_eq_true, decide_eq_true_eq, decide_eq_true_eq] at upper
  exact Nat.lt_of_le_of_lt (toNat_le_of_le upper.2) (by decide)

theorem toNat_of_isAsciiDigit (digit : isAsciiDigit char = true) : char.toNat < 128 := by
  rw [isAsciiDigit, Bool.and_eq_true, decide_eq_true_eq, decide_eq_true_eq] at digit
  exact Nat.lt_of_le_of_lt (toNat_le_of_le digit.2) (by decide)

theorem toNat_of_isAsciiAlnum (alnum : isAsciiAlnum char = true) : char.toNat < 128 := by
  rw [isAsciiAlnum, Bool.or_eq_true, isAsciiLetter, Bool.or_eq_true] at alnum
  rcases alnum with (upper | lower) | digit
  · exact toNat_of_isAsciiUpper upper
  · rw [isAsciiLower, Bool.and_eq_true, decide_eq_true_eq, decide_eq_true_eq] at lower
    exact Nat.lt_of_le_of_lt (toNat_le_of_le lower.2) (by decide)
  · exact toNat_of_isAsciiDigit digit

/-! ### Duplicates -/

/-- A list without its duplicates has none. -/
theorem nodup_eraseDups (texts : List Text) : texts.eraseDups.Nodup := by
  induction length : texts.length using Nat.strongRecOn generalizing texts with
  | ind count inductionHypothesis =>
    cases texts with
    | nil => exact List.nodup_nil
    | cons first rest =>
      rw [List.eraseDups_cons, List.nodup_cons, List.mem_eraseDups, List.mem_filter]
      have shorter : (rest.filter fun other => !other == first).length < count :=
        length ▸ Nat.lt_succ_of_le (List.length_filter_le _ rest)
      exact ⟨by simp, inductionHypothesis _ shorter _ rfl⟩

/-- A list in which nothing stands twice has no duplicates to lose. -/
theorem eraseDups_eq_self {texts : List Text} (distinct : texts.Nodup) :
    texts.eraseDups = texts := by
  induction texts with
  | nil => rfl
  | cons text rest inductionHypothesis =>
    obtain ⟨fresh, distinct⟩ := List.nodup_cons.mp distinct
    have kept : rest.filter (fun other => !other == text) = rest :=
      List.filter_eq_self.mpr fun other member => by
        simpa using fun same : other = text => fresh (same ▸ member)
    rw [List.eraseDups_cons, kept, inductionHypothesis distinct]

end GuidedMigration.Text
