/-
This file says how basic documents are written. Their scalars are the empty value, truth values,
integers, and words over letters, numerals and a few marks. None of them is ever folded, and a word
stands as it is unless YAML has another meaning for it; the only words with another meaning are the
spellings of the empty value and of the truth values, and those stand between single quotes. A key
is a row, with the value behind its colon if that is a leaf or an empty collection. What a
collection holds follows in rows of its own: the entries of a mapping two columns further in, the
items of a list at the column of the key. An item that is a mapping begins on the row of its dash,
in line with its other entries.
-/
import GuidedMigration.Config.Document
import GuidedMigration.Number.Numeral
import GuidedMigration.Proofs.Code.PatternMatch
import GuidedMigration.Proofs.Text.Lines
import GuidedMigration.Proofs.Text.Rows

namespace GuidedMigration.Text

variable {char : Char}

/-! ### Decimal digits -/

theorem isAsciiDigit_of_isDigit (digit : char.isDigit = true) : isAsciiDigit char = true := by
  rw [Char.isDigit, Bool.and_eq_true, decide_eq_true_eq, decide_eq_true_eq] at digit
  rw [isAsciiDigit, Bool.and_eq_true, decide_eq_true_eq, decide_eq_true_eq]
  exact digit

theorem isAsciiDigit_of_mem_ofNat {number : Nat} (member : char ∈ ofNat number) :
    isAsciiDigit char = true :=
  isAsciiDigit_of_isDigit (Nat.isDigit_of_mem_toDigits (by decide) (by decide) member)

theorem digitValue?_of_isAsciiDigit (digit : isAsciiDigit char = true) :
    digitValue? char = some (char.toNat - 48) := by
  rw [digitValue?, if_pos (toNat_of_isAsciiDigit digit), if_pos digit]

theorem isDigit_of_isAsciiDigit (digit : isAsciiDigit char = true) : isDigit char = true := by
  rw [isDigit, digitValue?_of_isAsciiDigit digit]
  rfl

/-- The decimal digits of a number write that number. -/
theorem numberOf_ofNat (number : Nat) : numberOf (ofNat number) = number := by
  have same (digits : Text) (decimal : ∀ char ∈ digits, isAsciiDigit char = true) (start : Nat) :
      digits.foldl (fun number char => number * 10 + (digitValue? char).getD 0) start =
        Nat.ofDigitChars 10 digits start := by
    induction digits generalizing start with
    | nil => rfl
    | cons char digits inductionHypothesis =>
      rw [List.foldl_cons, digitValue?_of_isAsciiDigit (decimal char List.mem_cons_self),
        inductionHypothesis fun char member => decimal char (List.mem_cons_of_mem _ member),
        Nat.mul_comm]
      rfl
  rw [numberOf, same _ (fun _ => isAsciiDigit_of_mem_ofNat), ofNat,
    Nat.ofDigitChars_toDigits (by decide) (by decide)]

theorem ofNat_ne_nil (number : Nat) : ofNat number ≠ [] := Nat.toDigits_ne_nil

/-- An integer is its digits, with a minus sign in front of them if it is negative. -/
theorem ofInt_eq (number : Int) :
    ofInt number = (if number < 0 then ['-'] else []) ++ ofNat number.natAbs := by
  cases number with
  | ofNat number => rfl
  | negSucc number =>
    rw [if_pos (Int.negSucc_lt_zero number)]
    rfl

end GuidedMigration.Text

namespace GuidedMigration.Yaml

open Text

variable {char mark : Char} {text word : Text} {leaf : Scalar}

/-! ### Quiet texts -/

/-- Whether a character means nothing to a reader wherever it stands behind another one. -/
def isQuiet (char : Char) : Bool :=
  !isBlank char && !isSpecial char && char != '\'' && char != '"' && char != ':' && char != '#'

/-- Whether all characters of a text are quiet. -/
def isQuietText (text : Text) : Bool := text.all isQuiet

theorem isQuietText_cons :
    isQuietText (char :: text) = true ↔ isQuiet char = true ∧ isQuietText text = true := by
  rw [isQuietText, List.all_cons, Bool.and_eq_true]
  rfl

theorem ne_of_isQuiet (quiet : isQuiet char = true) (loud : isQuiet mark = false) :
    char ≠ mark := by
  rintro rfl
  exact Bool.false_ne_true (loud.symm.trans quiet)

theorem not_mem_of_isQuietText (quiet : isQuietText text = true) (loud : isQuiet mark = false) :
    mark ∉ text := fun member =>
  ne_of_isQuiet (List.all_eq_true.mp quiet mark member) loud rfl

theorem isSpecial_of_isQuiet (quiet : isQuiet char = true) : isSpecial char = false := by
  simp only [isQuiet, Bool.and_eq_true, Bool.not_eq_true'] at quiet
  exact quiet.1.1.1.1.2

theorem isBlank_of_isQuiet (quiet : isQuiet char = true) : isBlank char = false := by
  simp only [isQuiet, Bool.and_eq_true, Bool.not_eq_true'] at quiet
  exact quiet.1.1.1.1.1

theorem isBreak_of_isQuiet (quiet : isQuiet char = true) : isBreak char = false := by
  refine Bool.eq_false_iff.mpr fun breaks => ?_
  have blank : isBlank char = true := by
    simp only [isBreak, Bool.or_eq_true, decide_eq_true_eq] at breaks
    rw [isBlank]
    rcases breaks with ((rfl | code) | code) | code
    · rfl
    all_goals
      rw [code]
      rfl
  exact Bool.false_ne_true ((isBlank_of_isQuiet quiet).symm.trans blank)

theorem foldPlain_of_isQuietText (quiet : isQuietText text = true) (fold : Bool) (indent : Nat)
    (column : Nat) (before : Char) : foldPlain fold indent column before text = text := by
  induction text generalizing column before with
  | nil => rfl
  | cons char text inductionHypothesis =>
    obtain ⟨first, quiet⟩ := isQuietText_cons.mp quiet
    have noSpace : char ≠ ' ' := ne_of_isQuiet first (by decide)
    rw [foldPlain, if_neg (by simp [noSpace]), inductionHypothesis quiet]

theorem fitsSingle_of_isQuietText (quiet : isQuietText text = true) : fitsSingle text = true := by
  induction text with
  | nil => rfl
  | cons char text inductionHypothesis =>
    obtain ⟨first, quiet⟩ := isQuietText_cons.mp quiet
    have noSpace : char ≠ ' ' := ne_of_isQuiet first (by decide)
    cases text with
    | nil => simp [fitsSingle, isSpecial_of_isQuiet first]
    | cons next text =>
      simp [fitsSingle, inductionHypothesis quiet, isSpecial_of_isQuiet first,
        isBreak_of_isQuiet first, noSpace]

theorem foldSingle_of_isQuietText (quiet : isQuietText text = true) (fold : Bool) (indent : Nat)
    (column : Nat) (before : Option Char) :
    foldSingle fold indent column before text = text := by
  induction text generalizing column before with
  | nil => rfl
  | cons char text inductionHypothesis =>
    obtain ⟨first, quiet⟩ := isQuietText_cons.mp quiet
    have noQuote : char ≠ '\'' := ne_of_isQuiet first (by decide)
    have noSpace : char ≠ ' ' := ne_of_isQuiet first (by decide)
    rw [foldSingle, if_neg noQuote, isBreak_of_isQuiet first, if_neg Bool.false_ne_true,
      if_neg (by simp [noSpace]), inductionHypothesis quiet]

theorem keepsPlain_of_isQuietText (quiet : isQuietText text = true) : keepsPlain text = true := by
  induction text with
  | nil => rfl
  | cons char text inductionHypothesis =>
    obtain ⟨first, quiet⟩ := isQuietText_cons.mp quiet
    have noColon : char ≠ ':' := ne_of_isQuiet first (by decide)
    have noSpace : char ≠ ' ' := ne_of_isQuiet first (by decide)
    cases text with
    | nil => simp [keepsPlain, noColon]
    | cons next text => simp [keepsPlain, inductionHypothesis quiet, noColon, noSpace]

/-! ### Words -/

/-- The marks that may stand in a word besides letters, numerals and underscores. -/
def wordMarks : List Char := ['-', '.', '/', '$', '\x7b', '\x7d']

/-- Whether a character may stand inside a word. -/
def isWordPart (char : Char) : Bool := isWord char || wordMarks.contains char

/-- Whether a character is a letter, that is a word character but no decimal digit and no
underscore. -/
def isLetter (char : Char) : Bool := isWord char && !isDigit char && char != '_'

/-- Whether a word may start with a character. -/
def isWordStart (char : Char) : Bool := isLetter char || char = '$'

/-- Whether a text is a word: it starts with a letter or a dollar sign. -/
def isBasicWord : Text → Bool
  | [] => false
  | first :: rest => isWordStart first && rest.all isWordPart

/-- A word character outside ASCII may stand in a document as it is. -/
theorem isSpecial_of_isWord (inWord : isWord char = true) (large : 128 ≤ char.toNat) :
    isSpecial char = false := by
  have inside : wordRanges.all (fun range =>
      (0xA0 ≤ range.1 && range.2 ≤ 0xD7FF) || (0xE000 ≤ range.1 && range.2 < 0xFEFF) ||
        (0xFEFF < range.1 && range.2 ≤ 0xFFFD) ||
        (0x10000 ≤ range.1 && range.2 < 0x10FFFF)) = true := by decide +kernel
  rw [isWord, if_neg (by omega), inRanges, List.any_eq_true] at inWord
  obtain ⟨⟨first, last⟩, member, within⟩ := inWord
  have bounds := List.all_eq_true.mp inside _ member
  simp only [Bool.or_eq_true, Bool.and_eq_true, decide_eq_true_eq] at within bounds
  have shown : isPlainUnicode char = true := by
    simp only [isPlainUnicode, Bool.or_eq_true, Bool.and_eq_true, decide_eq_true_eq, bne_iff_ne]
    omega
  rw [isSpecial, shown, Bool.or_true]
  rfl

theorem isQuiet_of_isWordPart (part : isWordPart char = true) : isQuiet char = true := by
  by_cases small : char.toNat < 128
  · have ascii := of_ascii (fun char => !isWordPart char || isQuiet char) (by decide +kernel) small
    simpa [part] using ascii
  · have other {mark : Char} (ascii : mark.toNat < 128) : char ≠ mark := fun same =>
      small (same ▸ ascii)
    have inWord : isWord char = true := by
      rw [isWordPart, Bool.or_eq_true] at part
      refine part.resolve_right fun member => ?_
      have ascii : wordMarks.all (fun mark => decide (mark.toNat < 128)) = true := by decide
      exact small (of_decide_eq_true
        (List.all_eq_true.mp ascii char (List.contains_iff_mem.mp member)))
    have ink : isBlank char = false := by
      refine Bool.eq_false_iff.mpr fun blank => ?_
      rw [not_isWord_of_isBlank blank] at inWord
      cases inWord
    simp only [isQuiet, ink, isSpecial_of_isWord inWord (Nat.le_of_not_lt small), Bool.not_false,
      Bool.true_and, Bool.and_eq_true, bne_iff_ne]
    refine ⟨⟨⟨?_, ?_⟩, ?_⟩, ?_⟩ <;> exact other (by decide)

theorem isWordPart_of_isWordStart (starts : isWordStart char = true) : isWordPart char = true := by
  rw [isWordStart, isLetter, Bool.or_eq_true, Bool.and_eq_true, Bool.and_eq_true,
    decide_eq_true_eq] at starts
  rcases starts with ⟨⟨inWord, -⟩, -⟩ | rfl
  · rw [isWordPart, inWord, Bool.true_or]
  · decide

theorem ne_of_isWordStart (starts : isWordStart char = true) (other : isWordStart mark = false) :
    char ≠ mark := by
  rintro rfl
  exact Bool.false_ne_true (other.symm.trans starts)

theorem isDigit_of_isWordStart (starts : isWordStart char = true) : isDigit char = false := by
  rw [isWordStart, isLetter, Bool.or_eq_true, Bool.and_eq_true, Bool.and_eq_true,
    Bool.not_eq_true', decide_eq_true_eq] at starts
  rcases starts with ⟨⟨-, noDigit⟩, -⟩ | rfl
  · exact noDigit
  · decide

theorem isAsciiDigit_of_isWordStart (starts : isWordStart char = true) :
    isAsciiDigit char = false := by
  refine Bool.eq_false_iff.mpr fun digit => ?_
  exact Bool.false_ne_true ((isDigit_of_isWordStart starts).symm.trans
    (isDigit_of_isAsciiDigit digit))

theorem exists_of_isBasicWord (basic : isBasicWord word = true) :
    ∃ first rest, word = first :: rest ∧ isWordStart first = true ∧
      rest.all isWordPart = true := by
  cases word with
  | nil => cases basic
  | cons first rest =>
    rw [isBasicWord, Bool.and_eq_true] at basic
    exact ⟨first, rest, rfl, basic⟩

theorem isQuietText_of_isBasicWord (basic : isBasicWord word = true) :
    isQuietText word = true := by
  obtain ⟨first, rest, rfl, starts, parts⟩ := exists_of_isBasicWord basic
  refine isQuietText_cons.mpr ⟨isQuiet_of_isWordPart (isWordPart_of_isWordStart starts), ?_⟩
  exact List.all_eq_true.mpr fun char member =>
    isQuiet_of_isWordPart (List.all_eq_true.mp parts char member)

theorem fitsPlain_of_isBasicWord (basic : isBasicWord word = true) : fitsPlain word = true := by
  have quiet := isQuietText_of_isBasicWord basic
  obtain ⟨first, rest, rfl, starts, -⟩ := exists_of_isBasicWord basic
  have other {mark : Char} (other : isWordStart mark = false) : first ≠ mark :=
    ne_of_isWordStart starts other
  have opens : first ∉ leadingIndicators := fun member =>
    have apart : leadingIndicators.all (!isWordStart ·) = true := by decide
    other ((Bool.not_eq_true' _).mp (List.all_eq_true.mp apart first member)) rfl
  have startsPlain' : startsPlain (first :: rest) = true := by
    rw [startsPlain]
    · simp [opens, @other '?' (by decide), @other ':' (by decide), @other '-' (by decide)]
    · rintro more rfl -
      exact other (by decide) rfl
    · rintro more rfl -
      exact other (by decide) rfl
  have noSpace : ' ' ∉ first :: rest := not_mem_of_isQuietText quiet (by decide)
  have begins : (first :: rest).head? ≠ some ' ' := fun same =>
    noSpace (List.mem_of_head? same)
  have ends : (first :: rest).getLast? ≠ some ' ' := fun same =>
    noSpace (List.mem_of_getLast? same)
  have shown : (first :: rest).all (fun char => !isBreak char && !isSpecial char) = true :=
    List.all_eq_true.mpr fun char member => by
      have quietChar := List.all_eq_true.mp quiet char member
      rw [isBreak_of_isQuiet quietChar, isSpecial_of_isQuiet quietChar]
      rfl
  rw [fitsPlain, startsPlain', keepsPlain_of_isQuietText quiet, shown, bne_iff_ne.mpr begins,
    bne_iff_ne.mpr ends]
  rfl

/-! ### What a word stands for -/

/-- The words that stand for the empty value or for a truth value. -/
def reservedWords : List Text := Plain.nullWords ++ Plain.trueWords ++ Plain.falseWords

section Kinds

variable {first : Char} {rest : Text}

theorem dropSign_of_isWordStart (starts : isWordStart first = true) (rest : Text) :
    Plain.dropSign (first :: rest) = first :: rest := by
  rw [Plain.dropSign]
  · rintro more same
    exact ne_of_isWordStart starts (by decide) (List.cons.inj same).1
  · rintro more same
    exact ne_of_isWordStart starts (by decide) (List.cons.inj same).1

theorem isNumeral_of_isWordStart (starts : isWordStart first = true) {kind : Char → Bool}
    (digit : ∀ char, kind char = true → isAsciiDigit char = true) (rest : Text) :
    Plain.isNumeral kind (first :: rest) = false := by
  rw [Plain.isNumeral, Bool.and_eq_false_iff]
  refine Or.inl (Bool.eq_false_iff.mpr fun isKind => ?_)
  exact Bool.false_ne_true ((isAsciiDigit_of_isWordStart starts).symm.trans (digit first isKind))

theorem isInBase_of_isWordStart (starts : isWordStart first = true) (mark : Text)
    (isDigit : Char → Bool) (rest : Text) :
    Plain.isInBase ('0' :: mark) isDigit (first :: rest) = false := by
  have zero : '0' ≠ first := Ne.symm (ne_of_isWordStart starts (by decide))
  rw [Plain.isInBase, dropPrefix?, if_neg zero]

/-- The first part of a text that starts with another character than the mark starts with it. -/
theorem exists_splitOn_cons (other : first ≠ mark) (rest : Text) :
    ∃ part parts, splitOn mark (first :: rest) = (first :: part) :: parts := by
  obtain ⟨part, parts, cut⟩ := List.exists_cons_of_ne_nil (splitOn_ne_nil mark rest)
  exact ⟨part, parts, by rw [splitOn, if_neg other, cut]⟩

theorem isInt_of_isWordStart (starts : isWordStart first = true) (rest : Text) :
    Plain.isInt (first :: rest) = false := by
  have zero : first ≠ '0' := ne_of_isWordStart starts (by decide)
  have counts (char : Char) (digit : (decide ('1' ≤ char) && decide (char ≤ '9')) = true) :
      isAsciiDigit char = true := by
    rw [Bool.and_eq_true, decide_eq_true_eq, decide_eq_true_eq] at digit
    rw [isAsciiDigit, Bool.and_eq_true, decide_eq_true_eq, decide_eq_true_eq]
    exact ⟨Nat.le_trans (by decide) (toNat_le_of_le digit.1), digit.2⟩
  obtain ⟨part, parts, cut⟩ :=
    exists_splitOn_cons (ne_of_isWordStart starts (by decide : isWordStart ':' = false)) rest
  simp only [Plain.isInt, dropSign_of_isWordStart starts, isInBase_of_isWordStart starts,
    isNumeral_of_isWordStart starts counts, cut]
  cases parts <;> simp [zero, isNumeral_of_isWordStart starts counts]

theorem isFloat_of_isWordStart (starts : isWordStart first = true) (rest : Text) :
    Plain.isFloat (first :: rest) = false := by
  have point : '.' ≠ first := Ne.symm (ne_of_isWordStart starts (by decide))
  have numeral (rest : Text) : Plain.isNumeral isAsciiDigit (first :: rest) = false :=
    isNumeral_of_isWordStart starts (fun _ digit => digit) rest
  rw [Plain.isFloat, Bool.or_false, dropSign_of_isWordStart starts, splitFirst?, dropPrefix?,
    if_neg point]
  · cases splitFirst? ['.'] rest with
    | none => rfl
    | some found =>
      obtain ⟨whole, more⟩ := found
      obtain ⟨part, parts, cut⟩ :=
        exists_splitOn_cons (ne_of_isWordStart starts (by decide : isWordStart ':' = false)) whole
      simp only [Option.map_some, numeral, cut]
      cases parts <;> simp [numeral]
  · rintro more same
    exact point (List.cons.inj same).1.symm

theorem isPlain_timestamp_of_isWordStart (starts : isWordStart first = true) (rest : Text) :
    Timestamp.isPlain (first :: rest) = false := by
  have none' : Timestamp.digits? 4 4 (first :: rest) = none := by
    simp [Timestamp.digits?, isAsciiDigit_of_isWordStart starts]
  rw [Timestamp.isPlain, Timestamp.read?, none']
  rfl

end Kinds

/-- A word stands for itself unless it is reserved. -/
theorem kind_eq_text_iff (basic : isBasicWord word = true) :
    Plain.kind word = .text ↔ word ∉ reservedWords := by
  obtain ⟨first, rest, rfl, starts, -⟩ := exists_of_isBasicWord basic
  have notMerge : first :: rest ≠ ['<', '<'] := fun same =>
    ne_of_isWordStart starts (by decide : isWordStart '<' = false) (List.cons.inj same).1
  have notValue : first :: rest ≠ ['='] := fun same =>
    ne_of_isWordStart starts (by decide : isWordStart '=' = false) (List.cons.inj same).1
  rw [Plain.kind, isFloat_of_isWordStart starts, isInt_of_isWordStart starts, if_neg notMerge,
    isPlain_timestamp_of_isWordStart starts, if_neg notValue, reservedWords]
  simp only [Bool.false_eq_true, if_false, List.mem_append, List.contains_iff_mem, Bool.or_eq_true]
  split
  · rename_i null
    exact iff_of_false (by decide) fun apart => apart (Or.inl (Or.inl null))
  · rename_i notNull
    split
    · rename_i truth
      refine iff_of_false (by decide) fun apart => apart ?_
      exact truth.elim (fun isTrue => Or.inl (Or.inr isTrue)) Or.inr
    · rename_i noTruth
      refine iff_of_true rfl ?_
      rintro ((null | isTrue) | isFalse)
      · exact notNull null
      · exact noTruth (Or.inl isTrue)
      · exact noTruth (Or.inr isFalse)

/-! ### Scalars -/

/-- A scalar on one line of a document: a word with another meaning stands between quotes. -/
def leafText : Scalar → Text
  | .text word => if Plain.kind word = .text then word else '\'' :: word ++ ['\'']
  | other => writeAtom other

/-- Whether a scalar is a leaf of a basic document: the empty value, a truth value, an integer that
can be read again, or a word. -/
def isBasicLeaf : Scalar → Bool
  | .null => true
  | .bool _ => true
  | .int number => (ofNat number.natAbs).length ≤ LongInteger.limit
  | .text word => isBasicWord word
  | _ => false

theorem writeText_of_isBasicWord (basic : isBasicWord word = true) (fold : Bool)
    (indent column : Nat) : writeText fold indent column word = leafText (.text word) := by
  have quiet := isQuietText_of_isBasicWord basic
  rw [writeText, leafText, fitsPlain_of_isBasicWord basic, foldPlain_of_isQuietText quiet,
    fitsSingle_of_isQuietText quiet, foldSingle_of_isQuietText quiet]
  simp

theorem isQuietText_ofInt (number : Int) : isQuietText (ofInt number) = true := by
  have digits : isQuietText (ofNat number.natAbs) = true :=
    List.all_eq_true.mpr fun char member => by
      have digit := isAsciiDigit_of_mem_ofNat member
      have ascii := of_ascii (fun char => !isAsciiDigit char || isQuiet char) (by decide +kernel)
        (toNat_of_isAsciiDigit digit)
      simpa [digit] using ascii
  rw [ofInt_eq, isQuietText, List.all_append, ← isQuietText, ← isQuietText, digits, Bool.and_true]
  split <;> decide

/-- A basic leaf is written on one line, the same way wherever it stands. -/
theorem writeScalar_of_isBasicLeaf (basic : isBasicLeaf leaf = true) (fold : Bool)
    (indent column : Nat) : writeScalar fold indent column leaf = leafText leaf := by
  cases leaf with
  | null => exact foldPlain_of_isQuietText (by decide) fold indent column ' '
  | bool truth =>
    cases truth <;> exact foldPlain_of_isQuietText (by decide) fold indent column ' '
  | int number => exact foldPlain_of_isQuietText (isQuietText_ofInt number) fold indent column ' '
  | text word => exact writeText_of_isBasicWord basic fold indent column
  | _ => cases basic

/-! ### Basic documents -/

/-- Whether a scalar is a key of a basic document: a letter, then letters, numerals, underscores and
hyphens, short enough to stand before its colon. -/
def isBasicKey : Scalar → Bool
  | .text [] => false
  | .text (first :: rest) => isLetter first && rest.all (fun char => isWord char || char = '-') &&
      isSimpleKey (.text (first :: rest))
  | _ => false

/-- Whether a value is a list with items. -/
def isFilledList : Value → Bool
  | .list (_ :: _) => true
  | _ => false

mutual

/-- Whether a value is made of basic leaves, of mappings from basic keys, and of lists in which no
list with items stands. -/
def isBasic : Value → Bool
  | .scalar leaf => isBasicLeaf leaf
  | .list items => isBasicList items
  | .set _ => false
  | .map entries => isBasicMap entries

/-- Whether the items of a list are basic. -/
def isBasicList : List Value → Bool
  | [] => true
  | item :: rest => !isFilledList item && isBasic item && isBasicList rest

/-- Whether the entries of a mapping are basic, each with a key of its own. -/
def isBasicMap : List (Scalar × Value) → Bool
  | [] => true
  | (key, value) :: rest =>
    isBasicKey key && !Mapping.has key rest && isBasic value && isBasicMap rest

end

theorem isBasicList_cons {item : Value} {rest : List Value} :
    isBasicList (item :: rest) = true ↔
      isFilledList item = false ∧ isBasic item = true ∧ isBasicList rest = true := by
  simp [isBasicList, and_assoc]

theorem isBasicMap_cons {key : Scalar} {value : Value} {rest : List (Scalar × Value)} :
    isBasicMap ((key, value) :: rest) = true ↔
      isBasicKey key = true ∧ Mapping.has key rest = false ∧ isBasic value = true ∧
        isBasicMap rest = true := by
  simp [isBasicMap, and_assoc]

/-! ### Rows -/

/-- A row of a document: how far it is indented, and its text. -/
abbrev Row := Nat × Text

/-- A row as it stands in the document. -/
def Row.shown (row : Row) : Text := List.replicate row.1 ' ' ++ row.2

/-- A row behind the break that opens it. -/
def Row.opened (row : Row) : Text := lineStart row.1 ++ row.2

/-- What stands for a value on the row of its key or its dash, if it does not go on below. -/
def inlineText : Value → Option Text
  | .scalar leaf => some (leafText leaf)
  | .list [] => some ['[', ']']
  | .map [] => some ['\x7b', '\x7d']
  | _ => none

/-- What stands behind a colon. -/
def behindColon : Option Text → Text
  | some written => ' ' :: written
  | none => []

/-- The rows of a mapping in a list: the first one has the dash. -/
def dashed : List Row → List Row
  | [] => []
  | (level, text) :: rows => (level - 2, '-' :: ' ' :: text) :: rows

mutual

/-- The rows below a key at a level. -/
def belowRows (level : Nat) : Value → List Row
  | .scalar _ => []
  | .list items => itemRows level items
  | .set _ => []
  | .map entries => entryRows (level + 2) entries

/-- The rows of the items of a list at a level. -/
def itemRows (level : Nat) : List Value → List Row
  | [] => []
  | item :: rest => (match inlineText item with
      | some written => [(level, '-' :: ' ' :: written)]
      | none => dashed (belowRows level item)) ++ itemRows level rest

/-- The rows of the entries of a mapping at a level. -/
def entryRows (level : Nat) : List (Scalar × Value) → List Row
  | [] => []
  | (key, value) :: rest =>
    (level, leafText key ++ ':' :: behindColon (inlineText value)) ::
      (belowRows level value ++ entryRows level rest)

end

/-! ### Documents -/

theorem exists_of_isBasicKey {key : Scalar} (basic : isBasicKey key = true) :
    ∃ word, key = .text word ∧ isBasicWord word = true ∧ isSimpleKey key = true := by
  match key with
  | .text (first :: rest) =>
    rw [isBasicKey, Bool.and_eq_true, Bool.and_eq_true] at basic
    obtain ⟨⟨starts, parts⟩, simple⟩ := basic
    refine ⟨first :: rest, rfl, ?_, simple⟩
    rw [isBasicWord, isWordStart, starts, Bool.true_or, Bool.true_and]
    refine List.all_eq_true.mpr fun char member => ?_
    have part := List.all_eq_true.mp parts char member
    rw [Bool.or_eq_true, decide_eq_true_eq] at part
    rcases part with inWord | rfl
    · rw [isWordPart, inWord, Bool.true_or]
    · decide
  | .text [] => cases basic
  | .null => cases basic
  | .bool _ => cases basic
  | .int _ => cases basic
  | .double _ => cases basic
  | .date _ => cases basic
  | .moment _ => cases basic
  | .bytes _ => cases basic

theorem lineStart_append_joinWith {parts : List Text} (some' : parts ≠ []) (indent : Nat) :
    lineStart indent ++ joinWith (lineStart indent) parts =
      parts.flatMap (lineStart indent ++ ·) := by
  induction parts with
  | nil => exact absurd rfl some'
  | cons part parts inductionHypothesis =>
    cases parts with
    | nil => simp [joinWith]
    | cons next parts =>
      rw [joinWith, List.flatMap_cons, ← inductionHypothesis (List.cons_ne_nil _ _)]
      simp

theorem writeEntries_ne_nil (indent : Nat) (entry : Scalar × Value)
    (entries : List (Scalar × Value)) : writeEntries indent (entry :: entries) ≠ [] := by
  simp [writeEntries]

/-- The rows of a mapping behind a dash. -/
theorem dash_append_joinWith {parts : List Text} (some' : parts ≠ []) {level : Nat} {text : Text}
    {rows : List Row}
    (same : parts.flatMap (lineStart (level + 2) ++ ·) =
      ((level + 2, text) :: rows).flatMap Row.opened) :
    lineStart level ++ ('-' :: ' ' :: joinWith (lineStart (level + 2)) parts) =
      (dashed ((level + 2, text) :: rows)).flatMap Row.opened := by
  rw [← lineStart_append_joinWith some', List.flatMap_cons, Row.opened, List.append_assoc] at same
  rw [List.append_cancel_left same]
  simp [dashed, Row.opened]

mutual

/-- What the writer puts behind a key is the rest of its row and the rows below. -/
theorem writeAfterKey_eq {value : Value} (basic : isBasic value = true) (indent column : Nat) :
    writeAfterKey indent column value =
      behindColon (inlineText value) ++ (belowRows indent value).flatMap Row.opened := by
  match value with
  | .scalar leaf =>
    have written : writeAfterKey indent column (.scalar leaf) =
        ' ' :: writeScalar true (indent + 2) (column + 1) leaf := rfl
    rw [isBasic] at basic
    rw [written, writeScalar_of_isBasicLeaf basic, belowRows, List.flatMap_nil, List.append_nil]
    rfl
  | .list [] => rfl
  | .list (item :: items) =>
    rw [isBasic] at basic
    exact flatMap_writeItems basic indent
  | .set _ => cases basic
  | .map [] => rfl
  | .map (entry :: entries) =>
    rw [isBasic] at basic
    exact flatMap_writeEntries basic (indent + 2)

/-- The items of a basic list are written row by row. -/
theorem flatMap_writeItems {items : List Value} (basic : isBasicList items = true)
    (indent : Nat) :
    (writeItems indent items).flatMap (lineStart indent ++ ·) =
      (itemRows indent items).flatMap Row.opened := by
  match items with
  | [] => rfl
  | item :: rest =>
    obtain ⟨notFilled, itemBasic, restBasic⟩ := isBasicList_cons.mp basic
    rw [writeItems, itemRows, List.flatMap_cons, List.flatMap_append,
      flatMap_writeItems restBasic indent]
    congr 1
    match item with
    | .scalar leaf =>
      have written : writeInline indent (.scalar leaf) =
          ' ' :: writeScalar true (indent + 2) (indent + 2) leaf := rfl
      rw [isBasic] at itemBasic
      rw [written, writeScalar_of_isBasicLeaf itemBasic]
      exact (List.append_nil _).symm
    | .list [] => exact (List.append_nil _).symm
    | .list (item :: items) => cases notFilled
    | .set _ => cases itemBasic
    | .map [] => exact (List.append_nil _).symm
    | .map ((key, value) :: entries) =>
      rw [isBasic] at itemBasic
      exact dash_append_joinWith (writeEntries_ne_nil _ _ _)
        (flatMap_writeEntries itemBasic (indent + 2))

/-- The entries of a basic mapping are written row by row. -/
theorem flatMap_writeEntries {entries : List (Scalar × Value)}
    (basic : isBasicMap entries = true) (indent : Nat) :
    (writeEntries indent entries).flatMap (lineStart indent ++ ·) =
      (entryRows indent entries).flatMap Row.opened := by
  match entries with
  | [] => rfl
  | (key, value) :: rest =>
    obtain ⟨keyBasic, -, valueBasic, restBasic⟩ := isBasicMap_cons.mp basic
    obtain ⟨word, rfl, wordBasic, simple⟩ := exists_of_isBasicKey keyBasic
    simp only [writeEntries, if_pos simple, entryRows, List.flatMap_cons, List.flatMap_append,
      flatMap_writeEntries restBasic indent, writeAfterKey_eq valueBasic,
      @writeScalar_of_isBasicLeaf (.text word) wordBasic]
    simp [Row.opened]

end

/-- A basic document is its rows, each closed by a newline. -/
theorem documentText_eq {entries : Mapping} (basic : isBasicMap entries = true)
    (some' : entries ≠ []) :
    Config.documentText entries = closed ((entryRows 0 entries).map Row.shown) := by
  obtain ⟨entry, entries, rfl⟩ := List.exists_cons_of_ne_nil some'
  have broken (rows : List Row) :
      rows.flatMap Row.opened ++ ['\n'] = '\n' :: closed (rows.map Row.shown) := by
    induction rows with
    | nil => rfl
    | cons row rows inductionHypothesis =>
      rw [List.flatMap_cons, List.append_assoc, inductionHypothesis]
      simp [closed, Row.opened, Row.shown, lineStart]
  have rows := flatMap_writeEntries basic 0
  rw [← lineStart_append_joinWith (writeEntries_ne_nil _ _ _)] at rows
  have whole := broken (entryRows 0 (entry :: entries))
  rw [← rows] at whole
  exact (List.cons.inj whole).2

end GuidedMigration.Yaml
