/-
This file says what a comment behind a line of a block does. A value loses it, and what stands in
front of the colon does not see it. Two kinds of lines do not take one: behind a colon that ends the
line it is read as the value, and behind a value that starts with a quote it is kept as part of it.
-/
import GuidedMigration.Config.Block
import GuidedMigration.Proofs.Text.MiddleRow

namespace GuidedMigration.Config.Block

open Text

variable {char : Char} {tail text written line key : Text}

/-! ### Blanks -/

theorem trimLeft_of_begins (begins : text.head?.any (!isBlank ·) = true) :
    trimLeft text = text := by
  cases text with
  | nil => rfl
  | cons char text => exact List.dropWhile_cons_of_neg (by simpa using begins)

theorem trimLeft_append (solid' : isBlankText text = false) (rest : Text) :
    trimLeft (text ++ rest) = trimLeft text ++ rest := by
  induction text with
  | nil => cases solid'
  | cons char text inductionHypothesis =>
    rw [List.cons_append, trimLeft, trimLeft, trimLeftWhile, trimLeftWhile, List.dropWhile_cons,
      List.dropWhile_cons]
    split
    · rename_i blank
      rw [isBlankText, List.all_cons, blank, Bool.true_and] at solid'
      exact inductionHypothesis solid'
    · rfl

theorem trimLeft_append_blank {blanks : Text} (blank : isBlankText blanks = true) (rest : Text) :
    trimLeft (blanks ++ rest) = trimLeft rest := by
  induction blanks with
  | nil => rfl
  | cons char blanks inductionHypothesis =>
    rw [isBlankText, List.all_cons, Bool.and_eq_true] at blank
    rw [List.cons_append, trimLeft, trimLeftWhile, List.dropWhile_cons_of_pos blank.1]
    exact inductionHypothesis blank.2

theorem trimRight_append_blank {blanks : Text} (blank : isBlankText blanks = true) (text : Text) :
    trimRight (text ++ blanks) = trimRight text := by
  have reversed : isBlankText blanks.reverse = true := by rwa [isBlankText, List.all_reverse]
  have dropped := trimLeft_append_blank reversed text.reverse
  rw [trimRight, trimRight, trimRightWhile, trimRightWhile, List.reverse_append]
  exact congrArg List.reverse dropped

theorem getLast?_append_of_ne_nil {right : Text} (written : right ≠ []) (left : Text) :
    (left ++ right).getLast? = right.getLast? := by
  obtain ⟨front, last, rfl⟩ := (List.eq_nil_or_concat right).resolve_left written
  rw [List.concat_eq_append, ← List.append_assoc, List.getLast?_concat, List.getLast?_concat]

/-- A text is what trimming leaves of it and blanks, and what is left does not end in one. -/
theorem exists_trimRight (text : Text) :
    ∃ blanks, isBlankText blanks = true ∧ text = trimRight text ++ blanks ∧
      (trimRight text).getLast?.all (!isBlank ·) = true := by
  refine ⟨(text.reverse.takeWhile isBlank).reverse, ?_, ?_, ?_⟩
  · rw [isBlankText, List.all_reverse]
    exact List.all_takeWhile
  · rw [trimRight, trimRightWhile, ← List.reverse_append, List.takeWhile_append_dropWhile,
      List.reverse_reverse]
  · rw [trimRight, trimRightWhile, List.getLast?_reverse]
    have first := List.head?_dropWhile_not isBlank text.reverse
    cases left : (text.reverse.dropWhile isBlank).head? with
    | none => rfl
    | some char =>
      rw [left] at first
      simpa using first

theorem trim_ne_nil (solid' : isBlankText text = false) : trim text ≠ [] := by
  obtain ⟨lead, trail, leadBlank, trailBlank, cut⟩ := exists_trimWhile isBlank text
  rw [← trim] at cut
  intro none'
  rw [cut, none', List.append_nil, isBlankText_append, isBlankText, leadBlank, isBlankText,
    trailBlank] at solid'
  cases solid'

/-! ### Comments behind a line -/

/-- Whether a text is a comment behind a line: blanks, and a hash behind the last of them that is a
space. -/
def IsComment (tail : Text) : Prop :=
  ∃ gap more, tail = gap ++ ' ' :: '#' :: more ∧ isBlankText gap = true

theorem IsComment.append {blanks : Text} (comment : IsComment tail)
    (blank : isBlankText blanks = true) : IsComment (blanks ++ tail) := by
  obtain ⟨gap, more, rfl, gapBlank⟩ := comment
  exact ⟨blanks ++ gap, more, by rw [List.append_assoc],
    by rw [isBlankText_append, blank, gapBlank]; rfl⟩

/-- The edges of a text with a comment behind it: the comment keeps its hash. -/
theorem IsComment.exists_trim (comment : IsComment tail) (solid' : isBlankText text = false) :
    ∃ rest, IsComment rest ∧ trim (text ++ tail) = trim text ++ rest := by
  obtain ⟨lead, trail, leadBlank, trailBlank, cut⟩ := exists_trimWhile isBlank text
  rw [← trim] at cut
  obtain ⟨gap, more, rfl, gapBlank⟩ := comment
  obtain ⟨blanks, blank, moreCut, ends⟩ := exists_trimRight more
  have written := trim_ne_nil solid'
  have trimmed := isTrimmed_trim written
  refine ⟨trail ++ (gap ++ ' ' :: '#' :: trimRight more),
    IsComment.append ⟨gap, trimRight more, rfl, gapBlank⟩ trailBlank, ?_⟩
  have whole : text ++ (gap ++ ' ' :: '#' :: more) =
      lead ++ (trim text ++ (trail ++ (gap ++ ' ' :: '#' :: trimRight more)) ++ blanks) := by
    conv => lhs; rw [cut, moreCut]
    simp
  rw [whole, trim_append_left leadBlank, trim_append_right blank]
  refine IsTrimmed.trim_eq ⟨?_, ?_⟩
  · obtain ⟨char, rest, cons⟩ := List.exists_cons_of_ne_nil written
    have begins := trimmed.begins
    rw [cons] at begins ⊢
    exact begins
  · have last : (trim text ++ (trail ++ (gap ++ ' ' :: '#' :: trimRight more))).getLast? =
        ('#' :: trimRight more).getLast? := by
      rw [← getLast?_append_of_ne_nil (List.cons_ne_nil _ _) (trim text ++ trail ++ gap ++ [' '])]
      simp
    rw [last, List.getLast?_cons]
    cases left : (trimRight more).getLast? with
    | none => rfl
    | some char =>
      rw [left] at ends
      simpa using ends

/-! ### Values -/

/-- A value up to the comment behind it. -/
def uncommented (value : Text) : Text := ((splitFirst? [' ', '#'] value).map Prod.fst).getD value

theorem stripComment_eq (plain : written.head?.any isQuote = false) :
    stripComment written = trimRight (uncommented written) := by
  rw [stripComment, if_neg (by simp [plain]), uncommented]
  cases splitFirst? [' ', '#'] written <;> rfl

/-- Whether a comment begins with the first two characters of a text. -/
def opensComment (text : Text) : Bool := startsWith [' ', '#'] text

theorem uncommented_cons (char : Char) (text : Text) :
    uncommented (char :: text) =
      if opensComment (char :: text) then [] else char :: uncommented text := by
  rw [uncommented, uncommented, opensComment, startsWith, splitFirst?]
  cases dropPrefix? [' ', '#'] (char :: text) with
  | some rest => rfl
  | none => cases splitFirst? [' ', '#'] text <;> rfl

theorem IsComment.head? (comment : IsComment tail) : tail.head?.any isBlank = true := by
  obtain ⟨gap, more, rfl, gapBlank⟩ := comment
  cases gap with
  | nil => rfl
  | cons char gap =>
    rw [isBlankText, List.all_cons, Bool.and_eq_true] at gapBlank
    exact gapBlank.1

theorem opensComment_cons_append (comment : IsComment tail) (char : Char) (text : Text) :
    opensComment (char :: (text ++ tail)) = opensComment (char :: text) := by
  cases text with
  | nil =>
    obtain ⟨first, rest, rfl⟩ := List.exists_cons_of_ne_nil
      (show tail ≠ [] by rintro rfl; cases comment.head?)
    have blank : isBlank first = true := comment.head?
    have noHash : '#' ≠ first := by rintro rfl; exact absurd blank (by decide)
    simp [opensComment, startsWith, dropPrefix?, noHash]
  | cons next text =>
    simp only [opensComment, startsWith, List.cons_append, dropPrefix?]
    split
    · split <;> rfl
    · rfl

/-- A text with a comment behind it ends, up to blanks, where it ends without. -/
theorem exists_uncommented (comment : IsComment tail) (written : Text) :
    ∃ blanks, isBlankText blanks = true ∧
      uncommented (written ++ tail) = uncommented written ++ blanks := by
  induction written with
  | nil =>
    obtain ⟨gap, more, rfl, gapBlank⟩ := comment
    refine ⟨gap, gapBlank, ?_⟩
    have whole : uncommented (gap ++ ' ' :: '#' :: more) = gap := by
      induction gap with
      | nil => rfl
      | cons char gap inductionHypothesis =>
        rw [isBlankText, List.all_cons, Bool.and_eq_true] at gapBlank
        have none' : opensComment (char :: (gap ++ ' ' :: '#' :: more)) = false := by
          have alone := opensComment_cons_append ⟨gap, more, rfl, gapBlank.2⟩ char []
          rw [List.nil_append] at alone
          rw [alone]
          simp [opensComment, startsWith, dropPrefix?]
        rw [List.cons_append, uncommented_cons, none', if_neg Bool.false_ne_true,
          inductionHypothesis gapBlank.2]
    exact whole
  | cons char written inductionHypothesis =>
    obtain ⟨blanks, blank, further⟩ := inductionHypothesis
    rw [List.cons_append, uncommented_cons, uncommented_cons,
      opensComment_cons_append comment char written]
    split
    · exact ⟨[], rfl, rfl⟩
    · exact ⟨blanks, blank, by rw [further, List.cons_append]⟩

/-- A value without its comment is the same if another comment stands behind it. -/
theorem stripComment_append (comment : IsComment tail)
    (plain : written.head?.any isQuote = false) :
    stripComment (written ++ tail) = stripComment written := by
  have longPlain : (written ++ tail).head?.any isQuote = false := by
    cases written with
    | cons char written => exact plain
    | nil =>
      obtain ⟨first, rest, rfl⟩ := List.exists_cons_of_ne_nil
        (show tail ≠ [] by rintro rfl; cases comment.head?)
      refine Bool.eq_false_iff.mpr fun quote => ?_
      have blank : isBlank first = true := comment.head?
      rw [List.nil_append, List.head?_cons, Option.any_some, isQuote, Bool.or_eq_true,
        decide_eq_true_eq, decide_eq_true_eq] at quote
      rcases quote with rfl | rfl <;> exact absurd blank (by decide)
  obtain ⟨blanks, blank, longer⟩ := exists_uncommented comment written
  rw [stripComment_eq longPlain, stripComment_eq plain, longer, trimRight_append_blank blank]

/-- A value with a comment behind it is read as the value alone, unless it starts with a quote. -/
theorem scalar_append (comment : IsComment tail) (solid' : isBlankText written = false)
    (plain : (trim written).head?.any isQuote = false) :
    scalar (written ++ tail) = scalar written := by
  obtain ⟨rest, restComment, trimmed⟩ := comment.exists_trim solid'
  rw [scalar, scalar, trimmed, stripComment_append restComment plain]

/-! ### Keys -/

/-- What a comment behind a line makes of the value behind a colon: it lengthens the value, and is
the value if there is none. -/
inductive Lengthened (tail : Text) : Option Text → Option Text → Prop
  | value {written : Text} (trimmed : IsTrimmed written) :
      Lengthened tail (some written) (some (written ++ tail))
  | hash (more : Text) : Lengthened tail none (some ('#' :: more))

/-- What is left of the end of a text without the blanks in front of it. -/
theorem isTrimmed_trimLeft (front : Text)
    (ends : (front ++ text).getLast?.any (!isBlank ·) = true) (written : text ≠ []) :
    isBlankText text = false ∧ IsTrimmed (trimLeft text) := by
  rw [getLast?_append_of_ne_nil written] at ends
  have solid' := not_isBlankText_of_ends ends
  refine ⟨solid', ?_⟩
  have lead : isBlankText (text.takeWhile isBlank) = true := List.all_takeWhile
  have cut : text = text.takeWhile isBlank ++ trimLeft text :=
    (List.takeWhile_append_dropWhile).symm
  have left : trimLeft text ≠ [] := by
    intro none'
    rw [none', List.append_nil] at cut
    rw [cut, lead] at solid'
    cases solid'
  obtain ⟨char, rest, cons⟩ := List.exists_cons_of_ne_nil left
  have first := List.head?_dropWhile_not isBlank text
  refine ⟨?_, ?_⟩
  · rw [← trimLeftWhile, ← trimLeft, cons] at first
    rw [cons]
    simpa using first
  · rwa [cut, getLast?_append_of_ne_nil left] at ends

theorem trimLeft_comment (comment : IsComment tail) : ∃ more, trimLeft tail = '#' :: more := by
  obtain ⟨gap, more, rfl, gapBlank⟩ := comment
  exact ⟨more, trimLeft_append_blank gapBlank _⟩

theorem afterColon?_append (comment : IsComment tail)
    (ends : text.getLast?.any (!isBlank ·) = true) :
    afterColon? text = none ∧ afterColon? (text ++ tail) = none ∨
      ∃ value longer, afterColon? text = some value ∧ afterColon? (text ++ tail) = some longer ∧
        Lengthened tail value longer := by
  cases text with
  | nil => cases ends
  | cons char text =>
    by_cases colon : char = ':'
    · subst colon
      cases text with
      | nil =>
        obtain ⟨more, hash⟩ := trimLeft_comment comment
        have written : tail.isEmpty = false := by
          cases tail with
          | nil => cases comment.head?
          | cons char tail => rfl
        refine Or.inr ⟨none, some ('#' :: more), rfl, ?_, .hash more⟩
        rw [List.singleton_append, afterColon?, written, comment.head?, hash]
        rfl
      | cons next text =>
        have ends' : ([':'] ++ (next :: text)).getLast?.any (!isBlank ·) = true := ends
        obtain ⟨solid', trimmed⟩ := isTrimmed_trimLeft [':'] ends' (List.cons_ne_nil _ _)
        have longer := trimLeft_append solid' tail
        rw [List.cons_append, List.cons_append, afterColon?, afterColon?, List.isEmpty_cons,
          List.isEmpty_cons, List.head?_cons, List.head?_cons, if_neg Bool.false_ne_true,
          if_neg Bool.false_ne_true, ← List.cons_append, longer]
        cases blank : (some next).any isBlank with
        | false => exact Or.inl ⟨rfl, rfl⟩
        | true => exact Or.inr ⟨_, _, rfl, rfl, .value trimmed⟩
    · refine Or.inl ⟨?_, ?_⟩ <;> simp [afterColon?, colon]

theorem entry?_quoted {quote : Char} (isQuote' : isQuote quote = true) {name : Text}
    (clean : quote ∉ name) (behind : Text) :
    entry? (quote :: (name ++ quote :: behind)) =
      if name.isEmpty then none else (afterColon? (trimLeft behind)).map (name, ·) := by
  have inner : (name ++ quote :: behind).takeWhile (· != quote) = name := by
    refine takeWhile_append_of_head (List.all_eq_true.mpr fun char member => ?_) (by simp)
    exact bne_iff_ne.mpr fun same => clean (same ▸ member)
  have longer : name.length ≠ (name ++ quote :: behind).length := by simp
  have rest : (name ++ quote :: behind).drop (name.length + 1) = behind := by
    rw [← List.drop_drop, List.drop_left]
    rfl
  simp only [ entry?, isQuote', inner, rest, longer, if_true, decide_false, Bool.or_false]

theorem entry?_plain {name : Text} (begins : name.head?.any (fun char =>
    !isQuote char && !isBlank char) = true) (noColon : ':' ∉ name) (noHash : '#' ∉ name)
    (behind : Text) (stops : behind.head?.all (fun char => char = ':' || char = '#') = true) :
    entry? (name ++ behind) = (afterColon? behind).map (trimRight name, ·) := by
  have run : (name ++ behind).takeWhile (fun char => char != ':' && char != '#') = name := by
    refine takeWhile_append_of_head (List.all_eq_true.mpr fun char member => ?_) ?_
    · rw [Bool.and_eq_true, bne_iff_ne, bne_iff_ne]
      exact ⟨fun same => noColon (same ▸ member), fun same => noHash (same ▸ member)⟩
    · cases behind with
      | nil => rfl
      | cons char behind =>
        have mark : char = ':' ∨ char = '#' := by simpa using stops
        rcases mark with rfl | rfl <;> rfl
  cases name with
  | nil => cases begins
  | cons first name =>
    rw [List.head?_cons, Option.any_some, Bool.and_eq_true, Bool.not_eq_true',
      Bool.not_eq_true'] at begins
    rw [List.mem_cons, not_or] at noColon noHash
    have notColon : first ≠ ':' := Ne.symm noColon.1
    have notHash : first ≠ '#' := Ne.symm noHash.1
    rw [List.cons_append] at run ⊢
    simp only [ entry?, begins.1, begins.2, notColon, notHash, run, Bool.false_eq_true, if_false,
      decide_false, Bool.or_false]
    rw [← List.cons_append, List.drop_left]

/-- What a comment behind a line does to the entry on it: the line has none and gets none, unless it
starts with a quote, or the key stays and the value is lengthened. -/
inductive EntryLengthened (tail text : Text) : Prop
  | unkeyed (none' : entry? text = none)
      (still : text.head?.any isQuote = true ∨ entry? (text ++ tail) = none)
  | keyed (key : Text) (value longer : Option Text) (found : entry? text = some (key, value))
      (more : entry? (text ++ tail) = some (key, longer))
      (lengthened : Lengthened tail value longer)

/-- The entry is lengthened as what stands behind its key is. -/
theorem EntryLengthened.of_afterColon? {behind : Text} (comment : IsComment tail)
    (ends : behind.getLast?.any (!isBlank ·) = true)
    (found : entry? text = (afterColon? behind).map (key, ·))
    (more : entry? (text ++ tail) = (afterColon? (behind ++ tail)).map (key, ·)) :
    EntryLengthened tail text := by
  rcases afterColon?_append comment ends with
    ⟨none', noMore⟩ | ⟨value, longer, read, readMore, lengthened⟩
  · rw [none'] at found
    rw [noMore] at more
    exact .unkeyed found (Or.inr more)
  · rw [read] at found
    rw [readMore] at more
    exact .keyed key value longer found more lengthened

/-- A key in quotes ends at the second quote, and a comment does not come before that. -/
theorem entry?_append_quoted {quote : Char} {rest : Text} (comment : IsComment tail)
    (ends : (quote :: rest).getLast?.any (!isBlank ·) = true) (isQuote' : isQuote quote = true) :
    EntryLengthened tail (quote :: rest) := by
  obtain ⟨behind, cut, -, stops⟩ := exists_takeWhile (· != quote) rest
  have others : (rest.takeWhile (· != quote)).all (· != quote) = true := List.all_takeWhile
  generalize rest.takeWhile (· != quote) = name at cut others
  subst cut
  have clean : quote ∉ name := not_mem_of_all others (by simp)
  cases behind with
  | nil =>
    have inner := takeWhile_append_of_head others (rfl : ([] : Text).head?.any _ = false)
    rw [List.append_nil] at inner ⊢
    refine .unkeyed ?_ (Or.inl isQuote')
    simp only [ entry?, isQuote', inner, decide_true, Bool.or_true, if_true]
  | cons second behind =>
    obtain rfl : second = quote := by simpa using stops
    by_cases empty : name.isEmpty = true
    · exact .unkeyed (by rw [entry?_quoted isQuote' clean, if_pos empty]) (Or.inl isQuote')
    cases behind with
    | nil =>
      refine .unkeyed ?_ (Or.inl isQuote')
      rw [entry?_quoted isQuote' clean, if_neg empty]
      rfl
    | cons next behind =>
      have whole : second :: (name ++ second :: next :: behind) =
        second :: (name ++ [second]) ++ (next :: behind) := by simp
      rw [whole] at ends
      obtain ⟨solid', inner⟩ := isTrimmed_trimLeft _ ends (List.cons_ne_nil _ _)
      refine .of_afterColon? comment inner.ends
        (by rw [entry?_quoted isQuote' clean, if_neg empty]) ?_
      rw [List.cons_append, List.append_assoc, List.cons_append, entry?_quoted isQuote' clean,
        if_neg empty, trimLeft_append solid']

/-- A name without a colon behind it gets none by a comment, which starts with a hash before it can
bring one. -/
theorem entry?_plain_comment {name : Text} (begins : name.head?.any (fun char =>
    !isQuote char && !isBlank char) = true) (noColon : ':' ∉ name) (noHash : '#' ∉ name)
    (comment : IsComment tail) : entry? (name ++ tail) = none := by
  obtain ⟨gap, more, rfl, gapBlank⟩ := comment
  have gapOther (char : Char) (ink : isBlank char = false) : char ∉ gap :=
    not_mem_of_all gapBlank ink
  have longBegins : (name ++ (gap ++ [' '])).head?.any
      (fun char => !isQuote char && !isBlank char) = true := by
    cases name with
    | nil => cases begins
    | cons char name => exact begins
  have whole : name ++ (gap ++ ' ' :: '#' :: more) = name ++ (gap ++ [' ']) ++ '#' :: more := by
    simp
  rw [whole, entry?_plain longBegins (by simp [noColon, gapOther ':' (by decide)])
    (by simp [noHash, gapOther '#' (by decide)]) ('#' :: more) rfl]
  rfl

/-- A key without quotes ends at the first colon or hash. -/
theorem entry?_append_plain {first : Char} {rest : Text} (comment : IsComment tail)
    (trimmed : IsTrimmed (first :: rest)) (plain : isQuote first = false) :
    EntryLengthened tail (first :: rest) := by
  have solid' : isBlank first = false := by simpa using trimmed.begins
  by_cases mark : first = ':' ∨ first = '#'
  · refine .unkeyed ?_ (Or.inr ?_) <;> rcases mark with rfl | rfl <;> simp [ entry?, plain]
  have ends := trimmed.ends
  obtain ⟨behind, cut, -, stops⟩ :=
    exists_takeWhile (fun char => char != ':' && char != '#') (first :: rest)
  have begins : ((first :: rest).takeWhile fun char => char != ':' && char != '#').head?.any
      (fun char => !isQuote char && !isBlank char) = true := by
    rw [List.takeWhile_cons_of_pos (by simpa [not_or] using mark)]
    simp [plain, solid']
  have inName : ((first :: rest).takeWhile fun char => char != ':' && char != '#').all
    (fun char => char != ':' && char != '#') = true := List.all_takeWhile
  generalize ((first :: rest).takeWhile fun char => char != ':' && char != '#') = name at *
  have noColon : ':' ∉ name := not_mem_of_all inName (by decide)
  have noHash : '#' ∉ name := not_mem_of_all inName (by decide)
  rw [cut] at ends ⊢
  cases behind with
  | nil =>
    refine .unkeyed (by rw [entry?_plain begins noColon noHash [] rfl]; rfl) (Or.inr ?_)
    rw [List.append_nil]
    exact entry?_plain_comment begins noColon noHash comment
  | cons next behind =>
    have marked : (next :: behind).head?.all (fun char => char = ':' || char = '#') = true := by
      simpa [Decidable.or_iff_not_imp_left] using stops
    rw [getLast?_append_of_ne_nil (List.cons_ne_nil _ _)] at ends
    refine .of_afterColon? comment ends (entry?_plain begins noColon noHash _ marked) ?_
    rw [List.append_assoc, entry?_plain begins noColon noHash (next :: behind ++ tail) marked]

/-- A comment behind a line does not touch the key of the line. -/
theorem entry?_append (comment : IsComment tail) (trimmed : IsTrimmed text) :
    EntryLengthened tail text := by
  cases text with
  | nil => exact absurd trimmed.begins (by decide)
  | cons first rest =>
    cases quote : isQuote first with
    | true => exact entry?_append_quoted comment trimmed.ends quote
    | false => exact entry?_append_plain comment trimmed quote

/-! ### Lines -/

/-- What a line writes: the whole line, or what stands behind the mark of an item. -/
def body (line : Text) : Text := if isItem line then trim (line.drop 1) else line

/-- Whether a line takes a comment: a value stands on it that does not start with a quote. -/
def takesComment (line : Text) : Bool :=
  match entry? (body line) with
  | some (_, some written) => !written.head?.any isQuote
  | some (_, none) => false
  | none => (body line).head?.any (!isQuote ·)

theorem ne_mark_of_takesComment (takes : takesComment line = true) : line ≠ ['-'] := by
  rintro rfl
  exact absurd takes (by decide)

theorem isItem_append (comment : IsComment tail) (trimmed : IsTrimmed line)
    (more : line ≠ ['-']) : isItem (line ++ tail) = isItem line := by
  obtain ⟨gap, rest, rfl, -⟩ := comment
  cases line with
  | nil => exact absurd trimmed.begins (by decide)
  | cons first line =>
    cases line with
    | nil =>
      have other : '-' ≠ first := fun same => more (by rw [same])
      simp [isItem, startsWith, dropPrefix?, other, Ne.symm other]
    | cons second line =>
      have long (behind : Text) : first :: second :: behind ≠ ['-'] := by simp
      rw [List.cons_append, List.cons_append, isItem, isItem, decide_eq_false (long _),
        decide_eq_false (long _)]
      simp only [startsWith, dropPrefix?]
      split
      · split <;> rfl
      · rfl

/-- What a line writes is lengthened by the comment behind the line. -/
theorem exists_body_append (comment : IsComment tail) (trimmed : IsTrimmed line)
    (more : line ≠ ['-']) :
    IsTrimmed (body line) ∧ ∃ rest, IsComment rest ∧ body (line ++ tail) = body line ++ rest := by
  rw [body, body, isItem_append comment trimmed more]
  split
  · have ends := trimmed.ends
    obtain ⟨mark, rest, rfl⟩ := List.exists_cons_of_ne_nil
      (show line ≠ [] by rintro rfl; exact absurd trimmed.begins (by decide))
    have written : rest ≠ [] := by
      rintro rfl
      rename_i item
      refine more ?_
      simpa [isItem, startsWith, dropPrefix?] using item
    have solid' := (isTrimmed_trimLeft [mark] ends written).1
    obtain ⟨left, leftComment, trimmed'⟩ := comment.exists_trim solid'
    exact ⟨isTrimmed_trim (trim_ne_nil solid'), left, leftComment, trimmed'⟩
  · exact ⟨trimmed, tail, comment, rfl⟩

theorem solid_of_isTrimmed (trimmed : IsTrimmed text) : isBlankText text = false :=
  not_isBlankText_of_ends trimmed.ends

theorem assign_append (comment : IsComment tail) (trimmed : IsTrimmed written)
    (plain : written.head?.any isQuote = false) (next : Option Line) (indent : Nat)
    (stack : Stack) :
    stack.assign key (some (written ++ tail)) next indent =
      stack.assign key (some written) next indent := by
  have sameScalar : scalar (written ++ tail) = scalar written :=
    scalar_append comment (solid_of_isTrimmed trimmed) (by rwa [trimmed.trim_eq])
  simp only [Stack.assign, Option.filter_some, stripComment_append comment plain]
  cases (stripComment written).isEmpty with
  | true => rfl
  | false => simp only [Bool.not_false, if_true, sameScalar]

variable {indent number : Nat} {next : Option Line} {stack result : Stack}

/-- What is written behind the mark of an item is lengthened by the comment behind it. -/
theorem exists_item_append (comment : IsComment tail) (trimmed : IsTrimmed line)
    (more : line ≠ ['-']) (item : isItem line = true) :
    trim (line.drop 1) ≠ [] ∧ IsTrimmed (trim (line.drop 1)) ∧ ∃ rest, IsComment rest ∧
      trim ((line ++ tail).drop 1) = trim (line.drop 1) ++ rest := by
  have found := exists_body_append comment trimmed more
  have sameItem := (isItem_append comment trimmed more).trans item
  simp only [body, item, sameItem, if_true] at found
  refine ⟨fun none' => ?_, found⟩
  rw [none'] at found
  exact absurd found.1.begins (by decide)

theorem not_quoted_of_plain (plain : text.head?.any (!isQuote ·) = true) :
    text.head?.any isQuote = false := by
  cases text with
  | nil => rfl
  | cons char text => simpa using plain

theorem readItem_append (comment : IsComment tail) (trimmed : IsTrimmed line)
    (takes : takesComment line = true) (item : isItem line = true) :
    stack.readItem ⟨indent, line ++ tail, number⟩ next =
      stack.readItem ⟨indent, line, number⟩ next := by
  obtain ⟨written, bodyTrimmed, rest, restComment, longer⟩ :=
    exists_item_append comment trimmed (ne_mark_of_takesComment takes) item
  simp only [takesComment, body, item, if_true] at takes
  simp only [Stack.readItem, longer, List.isEmpty_iff, written, List.append_eq_nil_iff, false_and,
    if_false]
  rcases entry?_append restComment bodyTrimmed with
    ⟨none', quoted⟩ | ⟨key, value, behind, found, more, lengthened⟩
  · rw [none'] at takes
    have plain := not_quoted_of_plain takes
    have noMore := quoted.resolve_left (by rw [plain]; exact Bool.false_ne_true)
    have sameScalar := scalar_append restComment (solid_of_isTrimmed bodyTrimmed)
      (by rwa [bodyTrimmed.trim_eq])
    simp only [none', noMore, sameScalar]
  · rw [found] at takes
    cases lengthened with
    | hash => cases takes
    | value writtenTrimmed =>
      simp only [found, more, assign_append restComment writtenTrimmed (by simpa using takes)]

theorem readEntry_append (comment : IsComment tail) (trimmed : IsTrimmed line)
    (takes : takesComment line = true) (item : isItem line = false) :
    stack.readEntry ⟨indent, line ++ tail, number⟩ next =
      stack.readEntry ⟨indent, line, number⟩ next := by
  simp only [takesComment, body, item, Bool.false_eq_true, if_false] at takes
  simp only [Stack.readEntry]
  rcases entry?_append comment trimmed with
    ⟨none', quoted⟩ | ⟨key, value, behind, found, more, lengthened⟩
  · rw [none'] at takes
    have noMore := quoted.resolve_left
      (by rw [not_quoted_of_plain takes]; exact Bool.false_ne_true)
    simp only [none', noMore]
  · rw [found] at takes
    cases lengthened with
    | hash => cases takes
    | value writtenTrimmed =>
      simp only [found, more, assign_append comment writtenTrimmed (by simpa using takes)]

/-- A line that takes a comment does with it what it does without. -/
theorem step_append (comment : IsComment tail) (trimmed : IsTrimmed line)
    (takes : takesComment line = true) :
    stack.step ⟨indent, line ++ tail, number⟩ next = stack.step ⟨indent, line, number⟩ next := by
  simp only [Stack.step, isItem_append comment trimmed (ne_mark_of_takesComment takes)]
  cases item : isItem line with
  | true => simp only [if_true, readItem_append comment trimmed takes item]
  | false => simp only [Bool.false_eq_true, if_false, readEntry_append comment trimmed takes item]

/-! ### Lines that take no comment -/

theorem uncommented_hash (more : Text) : ∃ rest, uncommented ('#' :: more) = '#' :: rest := by
  have other : opensComment ('#' :: more) = false := by
    simp [opensComment, startsWith, dropPrefix?]
  exact ⟨uncommented more, by rw [uncommented_cons, other, if_neg Bool.false_ne_true]⟩

theorem trimRight_hash (more : Text) : trimRight ('#' :: more) = '#' :: trimRight more :=
  trimRightWhile_cons isBlank '#' more

theorem lower_hash (more : Text) : ∃ rest, lower ('#' :: more) = '#' :: rest := by
  rw [lower]
  split <;> exact ⟨_, rfl⟩

/-- A value that starts with a hash is a text. -/
theorem scalar_hash (more : Text) :
    stripComment ('#' :: more) ≠ [] ∧ ∃ word, scalar ('#' :: more) = .ok (.text word) := by
  have stripped (more : Text) : ∃ rest, stripComment ('#' :: more) = '#' :: rest := by
    obtain ⟨rest, hash⟩ := uncommented_hash more
    exact ⟨trimRight rest, by rw [stripComment_eq rfl, hash, trimRight_hash]⟩
  have trimmed : trim ('#' :: more) = '#' :: trimRight more := by
    rw [← trimRight_hash]
    rfl
  obtain ⟨rest, value⟩ := stripped (trimRight more)
  obtain ⟨small, lowered⟩ := lower_hash rest
  refine ⟨?_, '#' :: rest, ?_⟩
  · obtain ⟨kept, hash⟩ := stripped more
    rw [hash]
    exact List.cons_ne_nil _ _
  · rw [scalar, trimmed, value]
    simp [lowered, isQuote, isInteger, isDigit, digitValue?, isAsciiDigit]

theorem length_unquote (text : Text) :
    (unquote text).length ≤ text.length ∧ text.length ≤ (unquote text).length + 2 := by
  rw [unquote.eq_def]
  split
  · split
    · simp only [List.length_dropLast, List.length_cons]
      omega
    · omega
  · omega

theorem unquote_concat {front : Text} (plain : isQuote char = false) :
    unquote (front ++ [char]) = front ++ [char] := by
  rw [unquote.eq_def]
  split
  · rename_i first second rest cut
    have last : (second :: rest).getLast? = some char := by
      rw [← List.getLast?_cons_cons, ← cut, List.getLast?_concat]
    split
    · rename_i quoted
      rw [last, Bool.and_eq_true, decide_eq_true_eq, Option.some.injEq] at quoted
      rw [quoted.2, quoted.1] at plain
      cases plain
    · rfl
  · rfl

/-- A value that starts with a quote is a text, and another one with a comment behind it. -/
theorem scalar_quoted_append (comment : IsComment tail) (trimmed : IsTrimmed written)
    (quoted : written.head?.any isQuote = true) :
    ∃ word other, scalar written = .ok (.text word) ∧
      scalar (written ++ tail) = .ok (.text other) ∧ word ≠ other := by
  obtain ⟨rest, restComment, longer⟩ := comment.exists_trim (solid_of_isTrimmed trimmed)
  rw [trimmed.trim_eq] at longer
  have longQuoted : (written ++ rest).head?.any isQuote = true := by
    cases written with
    | nil => cases quoted
    | cons first written => exact quoted
  refine ⟨unquote written, unquote (written ++ rest), ?_, ?_, fun same => ?_⟩
  · simp only [scalar, trimmed.trim_eq, stripComment, quoted, if_true]
  · simp only [scalar, longer, stripComment, longQuoted, if_true]
  · obtain ⟨gap, more, rfl, -⟩ := restComment
    have size := congrArg List.length same
    have short := (length_unquote written).1
    cases more with
    | nil =>
      have whole : written ++ (gap ++ [' ', '#']) = written ++ gap ++ [' '] ++ ['#'] := by simp
      rw [whole, unquote_concat (by decide)] at size
      simp only [List.length_append, List.length_singleton] at size
      omega
    | cons char more =>
      have long := (length_unquote (written ++ (gap ++ ' ' :: '#' :: char :: more))).2
      rw [← size] at long
      simp only [List.length_append, List.length_cons] at long
      omega

theorem assign_value (written' : stripComment written ≠ []) :
    stack.assign key (some written) next indent =
      scalar written >>= fun value =>
        .ok ⟨stack.level, stack.top.write (.key key) value, stack.frames⟩ := by
  simp [Stack.assign, Option.filter_some, written']

/-- A key without a value holds the empty value or opens a collection. -/
theorem assign_none (stack : Stack) (key : Text) (next : Option Line) (indent : Nat) :
    stack.assign key none next indent =
        .ok ⟨stack.level, stack.top.write (.key key) .null, stack.frames⟩ ∨
      ∃ level inner, stack.assign key none next indent =
        .ok (stack.push (.key key) level inner) := by
  cases next with
  | none => exact Or.inl rfl
  | some line =>
    simp only [Stack.assign, Option.filter_none]
    split
    · exact Or.inr ⟨_, _, rfl⟩
    · exact Or.inl rfl

theorem write_key_injective {entries : Mapping} {value other : Value}
    (same : (Open.mapping entries).write (.key key) value =
      (Open.mapping entries).write (.key key) other) : value = other := by
  have held := congrArg (Mapping.get? (.text key)) (Open.mapping.inj same)
  rwa [Mapping.get?_put_same, Mapping.get?_put_same, Option.some.injEq] at held

/-- Behind a key, a comment is not the empty value and opens nothing. -/
theorem assign_hash_ne {entries : Mapping} (top : stack.top = .mapping entries) (more : Text)
    (read : stack.assign key none next indent = .ok result) :
    stack.assign key (some ('#' :: more)) next indent ≠ .ok result := by
  obtain ⟨written, word, value⟩ := scalar_hash more
  rw [assign_value written, value]
  rintro same
  obtain rfl := Except.ok.inj same
  rcases assign_none stack key next indent with null | ⟨level, inner, opened⟩
  · have tops := congrArg Stack.top (Except.ok.inj (null.symm.trans read))
    rw [top] at tops
    cases write_key_injective tops
  · have depth := congrArg (·.frames.length) (Except.ok.inj (opened.symm.trans read))
    simp [Stack.push] at depth

theorem assign_quoted_ne {entries : Mapping} (top : stack.top = .mapping entries)
    (comment : IsComment tail) (trimmed : IsTrimmed written)
    (quoted : written.head?.any isQuote = true)
    (read : stack.assign key (some written) next indent = .ok result) :
    stack.assign key (some (written ++ tail)) next indent ≠ .ok result := by
  have kept {text : Text} (quoted : text.head?.any isQuote = true) : stripComment text ≠ [] := by
    rw [stripComment, if_pos quoted]
    rintro rfl
    cases quoted
  have longQuoted : (written ++ tail).head?.any isQuote = true := by
    cases written with
    | nil => cases quoted
    | cons first written => exact quoted
  obtain ⟨word, other, value, longer, different⟩ := scalar_quoted_append comment trimmed quoted
  rw [assign_value (kept quoted), value] at read
  rw [assign_value (kept longQuoted), longer]
  intro same
  have tops := congrArg Stack.top (Except.ok.inj (same.trans read.symm))
  rw [top] at tops
  exact different (Scalar.text.inj (Value.scalar.inj (write_key_injective tops))).symm

/-- Writing to a key closes no collection. -/
theorem length_frames_of_assign {value : Option Text}
    (read : stack.assign key value next indent = .ok result) :
    stack.frames.length ≤ result.frames.length := by
  rw [Stack.assign.eq_def] at read
  split at read
  · rename_i written _
    cases found : scalar written with
    | error fault =>
      rw [found] at read
      cases read
    | ok value =>
      rw [found] at read
      obtain rfl := Except.ok.inj read
      exact Nat.le_refl _
  · have kept := assign_none stack key next indent
    rw [Stack.assign.eq_def, Option.filter_none] at kept
    dsimp only at kept
    rw [read] at kept
    rcases kept with same | ⟨level, inner, same⟩
    · obtain rfl := Except.ok.inj same
      exact Nat.le_refl _
    · obtain rfl := Except.ok.inj same
      exact Nat.le_succ _

theorem readItem_append_ne (comment : IsComment tail) (trimmed : IsTrimmed line)
    (more : line ≠ ['-']) (refuses : takesComment line = false) (item : isItem line = true)
    (read : stack.readItem ⟨indent, line, number⟩ next = .ok result) :
    stack.readItem ⟨indent, line ++ tail, number⟩ next ≠ .ok result := by
  obtain ⟨written, bodyTrimmed, rest, restComment, longer⟩ :=
    exists_item_append comment trimmed more item
  simp only [takesComment, body, item, if_true] at refuses
  simp only [Stack.readItem, longer, List.isEmpty_iff, written, List.append_eq_nil_iff, false_and,
    if_false] at read ⊢
  split at read
  · cases read
  rename_i items top
  simp only [top]
  rcases entry?_append restComment bodyTrimmed with
    ⟨none', -⟩ | ⟨key, value, behind, found, foundLonger, lengthened⟩
  · rw [none'] at read refuses
    have quoted : (trim (line.drop 1)).head?.any isQuote = true := by
      obtain ⟨first, behind, cons⟩ := List.exists_cons_of_ne_nil written
      rw [cons] at refuses ⊢
      simpa using refuses
    obtain ⟨word, other, value, valueLonger, different⟩ :=
      scalar_quoted_append restComment bodyTrimmed quoted
    rw [value] at read
    obtain rfl := Except.ok.inj read
    cases entry? (trim (line.drop 1) ++ rest) with
    | none =>
      rw [valueLonger]
      intro same
      have tops := congrArg Stack.top (Except.ok.inj same)
      simp only [Open.write, top, Open.list.injEq, List.cons.injEq, and_true] at tops
      exact different (Scalar.text.inj (Value.scalar.inj tops)).symm
    | some entry =>
      -- With the comment the item opens a mapping, and without it none.
      exact fun same => absurd (length_frames_of_assign same) (Nat.not_succ_le_self _)
  · rw [found] at read refuses
    rw [foundLonger]
    cases lengthened with
    | value writtenTrimmed =>
      exact assign_quoted_ne rfl restComment writtenTrimmed (by simpa using refuses) read
    | hash hash => exact assign_hash_ne rfl hash read

theorem readEntry_append_ne (comment : IsComment tail) (trimmed : IsTrimmed line)
    (refuses : takesComment line = false) (item : isItem line = false)
    (read : stack.readEntry ⟨indent, line, number⟩ next = .ok result) :
    stack.readEntry ⟨indent, line ++ tail, number⟩ next ≠ .ok result := by
  simp only [takesComment, body, item, Bool.false_eq_true, if_false] at refuses
  simp only [Stack.readEntry] at read ⊢
  split at read
  · cases read
  rename_i entries top
  rcases entry?_append comment trimmed with
    ⟨none', -⟩ | ⟨key, value, behind, found, foundLonger, lengthened⟩
  · rw [none'] at read
    cases read
  · rw [found] at read refuses
    rw [foundLonger]
    cases lengthened with
    | value writtenTrimmed =>
      exact assign_quoted_ne top comment writtenTrimmed (by simpa using refuses) read
    | hash hash => exact assign_hash_ne top hash read

/-- The mark of an item alone is a fault. -/
theorem step_mark_ne (indent number : Nat) (next : Option Line) (stack result : Stack) :
    stack.step ⟨indent, ['-'], number⟩ next ≠ .ok result := by
  intro read
  simp only [Stack.step, show isItem ['-'] = true from rfl, if_true, Stack.readItem,
    show (trim (['-'].drop 1)).isEmpty = true from rfl] at read
  split at read
  · cases read
  · split at read <;> cases read

/-- A line that takes no comment is not read the same way with one. -/
theorem step_append_ne (comment : IsComment tail) (trimmed : IsTrimmed line)
    (refuses : takesComment line = false)
    (read : stack.step ⟨indent, line, number⟩ next = .ok result) :
    stack.step ⟨indent, line ++ tail, number⟩ next ≠ .ok result := by
  have more : line ≠ ['-'] := by
    rintro rfl
    exact step_mark_ne _ _ _ _ _ read
  simp only [Stack.step, isItem_append comment trimmed more] at read ⊢
  split at read
  · cases read
  rename_i level
  rw [if_neg level]
  cases item : isItem line with
  | true =>
    simp only [item, if_true] at read ⊢
    exact readItem_append_ne comment trimmed more refuses item read
  | false =>
    simp only [item, Bool.false_eq_true, if_false] at read ⊢
    exact readEntry_append_ne comment trimmed refuses item read

end GuidedMigration.Config.Block
