/-
This file says what the name made of a phrase is: the words of the phrase, which are its runs of
letters and digits, in capitals and with an underscore between any two. The words of the name are
again these capitals, so that two phrases have the same name exactly if they have the same words in
disregard of case. The name is that of a placeholder exactly if the first word begins with a letter.
-/
import GuidedMigration.Proofs.Value.OpenForm

namespace GuidedMigration.Placeholder

open Text

variable {char : Char} {name phrase text : Text}

/-! ### Words -/

/-- The words with a character put in front of the first one. -/
def lengthenFirst (char : Char) : List Text → List Text
  | [] => [[char]]
  | word :: words => (char :: word) :: words

/-- The words of a phrase: its runs of letters and digits. -/
def phraseWords : Text → List Text
  | [] => []
  | char :: text =>
    if isAsciiAlnum char then
      if text.head?.any isAsciiAlnum then lengthenFirst char (phraseWords text)
      else [char] :: phraseWords text
    else phraseWords text

/-- A word in capitals. -/
def capital (word : Text) : Text := word.map asciiUpper

theorem phraseWords_of_other (other : isAsciiAlnum char = false) (text : Text) :
    phraseWords (char :: text) = phraseWords text := by
  rw [phraseWords, if_neg (by simp [other])]

theorem phraseWords_ne_nil (begins : text.head?.any isAsciiAlnum = true) :
    phraseWords text ≠ [] := by
  cases text with
  | nil => cases begins
  | cons char text =>
    have alnum : isAsciiAlnum char = true := begins
    rw [phraseWords, if_pos alnum]
    split
    · cases phraseWords text <;> exact List.cons_ne_nil _ _
    · exact List.cons_ne_nil _ _

theorem spec_of_mem_phraseWords {word : Text} (member : word ∈ phraseWords text) :
    word ≠ [] ∧ word.all isAsciiAlnum = true := by
  induction text generalizing word with
  | nil => cases member
  | cons char text inductionHypothesis =>
    rw [phraseWords] at member
    split at member
    · rename_i alnum
      split at member
      · cases split : phraseWords text with
        | nil =>
          rw [split] at member
          obtain rfl := List.mem_singleton.mp member
          exact ⟨List.cons_ne_nil _ _, by simp [alnum]⟩
        | cons first words =>
          rw [split] at member inductionHypothesis
          rcases List.mem_cons.mp member with rfl | further
          · have rest := (inductionHypothesis List.mem_cons_self).2
            exact ⟨List.cons_ne_nil _ _, by rw [List.all_cons, alnum, rest]; rfl⟩
          · exact inductionHypothesis (List.mem_cons_of_mem _ further)
      · rcases List.mem_cons.mp member with rfl | further
        · exact ⟨List.cons_ne_nil _ _, by simp [alnum]⟩
        · exact inductionHypothesis further
    · exact inductionHypothesis member

/-- A mark that is no letter or digit parts words. -/
theorem phraseWords_append (mark : isAsciiAlnum char = false) (left right : Text) :
    phraseWords (left ++ char :: right) = phraseWords left ++ phraseWords right := by
  induction left with
  | nil => exact phraseWords_of_other mark right
  | cons first left inductionHypothesis =>
    rw [List.cons_append, phraseWords, phraseWords, inductionHypothesis]
    split
    · cases left with
      | nil => simp [mark, phraseWords]
      | cons second left =>
        rw [List.cons_append, List.head?_cons, List.head?_cons]
        simp only [Option.any_some]
        split
        · rename_i alnum
          obtain ⟨word, words, split⟩ := List.exists_cons_of_ne_nil
            (@phraseWords_ne_nil (second :: left) alnum)
          rw [split]
          rfl
        · rfl
    · rfl

theorem phraseWords_joinWith (mark : isAsciiAlnum char = false) (parts : List Text) :
    phraseWords (joinWith [char] parts) = parts.flatMap phraseWords := by
  induction parts with
  | nil => rfl
  | cons part parts inductionHypothesis =>
    cases parts with
    | nil => rw [joinWith, List.flatMap_cons, List.flatMap_nil, List.append_nil]
    | cons next parts =>
      rw [joinWith, List.append_assoc, List.singleton_append, phraseWords_append mark,
        inductionHypothesis, ← List.flatMap_cons]

/-! ### Names -/

theorem dropWhile_squeeze (phrase : Text) :
    (squeeze (!isAsciiAlnum ·) '_' false phrase).dropWhile (· = '_') =
      squeeze (!isAsciiAlnum ·) '_' true phrase := by
  have kept {char : Char} (alnum : isAsciiAlnum char = true) : char ≠ '_' := by
    rintro rfl
    exact absurd alnum (by decide)
  have apart (phrase : Text) : (squeeze (!isAsciiAlnum ·) '_' true phrase).dropWhile (· = '_') =
      squeeze (!isAsciiAlnum ·) '_' true phrase := by
    induction phrase with
    | nil => rfl
    | cons char phrase inductionHypothesis =>
      cases alnum : isAsciiAlnum char with
      | false => simpa [squeeze, alnum] using inductionHypothesis
      | true => simp [squeeze, alnum, kept alnum]
  cases phrase with
  | nil => rfl
  | cons char phrase =>
    cases alnum : isAsciiAlnum char with
    | false => simpa [squeeze, alnum] using apart phrase
    | true => simp [squeeze, alnum, kept alnum]

/-- The letters and digits of a phrase that are kept, with one mark between any two words. -/
theorem trimRightWhile_squeeze (phrase : Text) :
    trimRightWhile (· = '_') (squeeze (!isAsciiAlnum ·) '_' true phrase) =
      joinWith ['_'] (phraseWords phrase) := by
  induction phrase with
  | nil => rfl
  | cons char phrase inductionHypothesis =>
    cases alnum : isAsciiAlnum char with
    | false => simpa [squeeze, phraseWords, alnum] using inductionHypothesis
    | true =>
      have kept : decide (char = '_') = false :=
        decide_eq_false (by rintro rfl; exact absurd alnum (by decide))
      have first : squeeze (!isAsciiAlnum ·) '_' true (char :: phrase) =
          char :: squeeze (!isAsciiAlnum ·) '_' false phrase := by simp [squeeze, alnum]
      rw [first, trimRightWhile_cons, phraseWords, if_pos alnum, kept, Bool.false_and,
        if_neg Bool.false_ne_true]
      cases phrase with
      | nil => rfl
      | cons next phrase =>
        cases nextAlnum : isAsciiAlnum next with
        | true =>
          -- The word goes on, and no mark has been written.
          have same : squeeze (!isAsciiAlnum ·) '_' false (next :: phrase) =
              squeeze (!isAsciiAlnum ·) '_' true (next :: phrase) := by simp [squeeze, nextAlnum]
          obtain ⟨word, words, split⟩ := List.exists_cons_of_ne_nil
            (@phraseWords_ne_nil (next :: phrase) nextAlnum)
          rw [same, inductionHypothesis, split]
          cases words <;> simp [nextAlnum, lengthenFirst, joinWith]
        | false =>
          -- A mark has been written, which stays only if another word comes.
          have left : squeeze (!isAsciiAlnum ·) '_' true (next :: phrase) =
              squeeze (!isAsciiAlnum ·) '_' true phrase := by simp [squeeze, nextAlnum]
          have marked : squeeze (!isAsciiAlnum ·) '_' false (next :: phrase) =
              '_' :: squeeze (!isAsciiAlnum ·) '_' true phrase := by simp [squeeze, nextAlnum]
          rw [left] at inductionHypothesis
          rw [marked, trimRightWhile_cons, inductionHypothesis]
          cases words : phraseWords (next :: phrase) with
          | nil => simp [nextAlnum, joinWith]
          | cons word words' =>
            have written := (spec_of_mem_phraseWords (words ▸ List.mem_cons_self)).1
            obtain ⟨letter, more, rfl⟩ := List.exists_cons_of_ne_nil written
            cases words' <;> simp [nextAlnum, joinWith]

theorem map_joinWith (change : Char → Char) (mark : Char) (parts : List Text) :
    (joinWith [mark] parts).map change =
      joinWith [change mark] (parts.map (List.map change)) := by
  induction parts with
  | nil => rfl
  | cons part parts inductionHypothesis =>
    cases parts with
    | nil => rfl
    | cons next parts => simpa [joinWith] using inductionHypothesis

/-- A name is made up of the words of its phrase, in capitals. -/
theorem nameOf_eq (phrase : Text) :
    nameOf phrase = joinWith ['_'] ((phraseWords phrase).map capital) := by
  have trimmed : trimWhile (· = '_') (squeeze (!isAsciiAlnum ·) '_' false phrase) =
      joinWith ['_'] (phraseWords phrase) := by
    rw [trimWhile, trimLeftWhile, dropWhile_squeeze, trimRightWhile_squeeze]
  rw [nameOf, trimmed, map_joinWith]
  rfl

theorem spec_asciiUpper (alnum : isAsciiAlnum char = true) :
    isAsciiAlnum (asciiUpper char) = true ∧
      isAsciiLetter (asciiUpper char) = isAsciiLetter char := by
  have spec := of_ascii (fun char => !isAsciiAlnum char || (isAsciiAlnum (asciiUpper char) &&
    isAsciiLetter (asciiUpper char) == isAsciiLetter char)) (by decide)
      (toNat_of_isAsciiAlnum alnum)
  simpa [alnum] using spec

theorem all_capital {word : Text} (alnum : word.all isAsciiAlnum = true) :
    (capital word).all isAsciiAlnum = true := by
  rw [capital, List.all_map, List.all_eq_true]
  exact fun char member => (spec_asciiUpper (List.all_eq_true.mp alnum char member)).1

theorem phraseWords_of_word {word : Text} (written : word ≠ [])
    (alnum : word.all isAsciiAlnum = true) : phraseWords word = [word] := by
  induction word with
  | nil => exact absurd rfl written
  | cons char word inductionHypothesis =>
    rw [List.all_cons, Bool.and_eq_true] at alnum
    rw [phraseWords, if_pos alnum.1]
    cases word with
    | nil => rfl
    | cons next word =>
      have more := alnum.2
      rw [List.all_cons, Bool.and_eq_true] at more
      rw [inductionHypothesis (List.cons_ne_nil _ _) alnum.2, List.head?_cons, Option.any_some,
        if_pos more.1, lengthenFirst]

/-- The words of a name are the words it is made of. -/
theorem phraseWords_nameOf (phrase : Text) :
    phraseWords (nameOf phrase) = (phraseWords phrase).map capital := by
  have words : ∀ word ∈ phraseWords phrase, phraseWords (capital word) = [capital word] := by
    intro word member
    obtain ⟨written, alnum⟩ := spec_of_mem_phraseWords member
    exact phraseWords_of_word (mt List.map_eq_nil_iff.mp written) (all_capital alnum)
  rw [nameOf_eq, phraseWords_joinWith (by decide), List.flatMap_map, List.flatMap_def,
    List.map_congr_left words, ← List.flatMap_def, ← List.map_eq_flatMap]

/-- Two phrases have the same name if they have the same words in capitals, and only then. -/
theorem nameOf_eq_nameOf {other : Text} :
    nameOf phrase = nameOf other ↔
      (phraseWords phrase).map capital = (phraseWords other).map capital := by
  refine ⟨fun same => ?_, fun same => by rw [nameOf_eq, nameOf_eq, same]⟩
  rw [← phraseWords_nameOf, ← phraseWords_nameOf, same]

theorem all_joinWith {kind : Char → Bool} {mark : Char} {parts : List Text}
    (marked : kind mark = true) (all : ∀ part ∈ parts, part.all kind = true) :
    (joinWith [mark] parts).all kind = true := by
  induction parts with
  | nil => rfl
  | cons part parts inductionHypothesis =>
    have first := all part List.mem_cons_self
    have rest := inductionHypothesis fun other member =>
      all other (List.mem_cons_of_mem part member)
    cases parts with
    | nil => exact first
    | cons next parts => simp [joinWith, first, marked, rest]

/-- A name holds nothing but what a placeholder's name may hold. -/
theorem all_isNameChar_nameOf (phrase : Text) : (nameOf phrase).all isNameChar = true := by
  rw [nameOf_eq]
  refine all_joinWith (by decide) fun part member => ?_
  obtain ⟨word, member', rfl⟩ := List.mem_map.mp member
  rw [List.all_eq_true]
  intro char within
  rw [isNameChar, List.all_eq_true.mp (all_capital (spec_of_mem_phraseWords member').2) char within,
    Bool.true_or]

/-- Whether the first of some words begins with a letter. -/
def beginsWithLetter (words : List Text) : Bool := words.head?.any (·.head?.any isAsciiLetter)

theorem head?_nameOf (phrase : Text) :
    (nameOf phrase).head?.any isAsciiLetter = beginsWithLetter (phraseWords phrase) ∧
      (nameOf phrase).head? ≠ some '_' := by
  rw [nameOf_eq]
  cases words : phraseWords phrase with
  | nil => exact ⟨rfl, Option.some_ne_none _ |>.symm⟩
  | cons word rest =>
    obtain ⟨written, alnum⟩ := spec_of_mem_phraseWords (words ▸ List.mem_cons_self)
    obtain ⟨char, word, rfl⟩ := List.exists_cons_of_ne_nil written
    rw [List.all_cons, Bool.and_eq_true] at alnum
    obtain ⟨upper, letter⟩ := spec_asciiUpper alnum.1
    have first : (joinWith ['_'] (((char :: word) :: rest).map capital)).head? =
        some (asciiUpper char) := by
      cases rest <;> rfl
    rw [first]
    refine ⟨letter, fun same => ?_⟩
    rw [Option.some.inj same] at upper
    exact absurd upper (by decide)

/-- The name of a phrase is that of a placeholder if its first word begins with a letter, and only
then. -/
theorem isName_nameOf (phrase : Text) :
    isName (nameOf phrase) = beginsWithLetter (phraseWords phrase) := by
  obtain ⟨letter, notMark⟩ := head?_nameOf phrase
  rw [isName, all_isNameChar_nameOf, Bool.and_true, ← letter]
  cases first : (nameOf phrase).head? with
  | none => rfl
  | some char =>
    have other : decide (char = '_') = false :=
      decide_eq_false fun same => notMark (same ▸ first)
    rw [Option.any_some, Option.any_some, isNameStart, other, Bool.or_false]

end GuidedMigration.Placeholder
