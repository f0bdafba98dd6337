/-
This file says what the lines of a guide are that the scan for steps looks at, by the parts that
they are put together from: lines with a number, bullets that tell to do something, and the lines
that open and close a fenced region. Each is recognised exactly where the line has these parts, and
no line is two of them.
-/
import GuidedMigration.Proofs.Guide.WellFenced
import GuidedMigration.Proofs.Text.Rows
import GuidedMigration.Proofs.Text.Scan

namespace GuidedMigration

open Text

namespace Text

/-! ### Characters -/

variable {char : Char} {text : Text}

theorem not_isDigit_of_isBlank (blank : isBlank char = true) : isDigit char = false := by
  have all : blankCodes.all (fun code => !isDigit (Char.ofNat code)) = true := by decide +kernel
  have apart := List.all_eq_true.mp all _ (toNat_mem_blankCodes blank)
  rwa [Char.ofNat_toNat, Bool.not_eq_true'] at apart

/-- What stands for a small letter of ASCII in disregard of case belongs to a word. -/
theorem isWord_of_foldChar (letter : isAsciiLower (foldChar char) = true) : isWord char = true := by
  by_cases small : char.toNat < 128
  · have held := of_ascii (fun char => !isAsciiLower (foldChar char) || isWord char)
      (by decide +kernel) small
    rw [letter] at held
    exact held
  · have others : [0x17F, 0x130, 0x131, 0x212A].all (fun code => isWord (Char.ofNat code)) =
        true := by decide +kernel
    have among : char.toNat ∈ [0x17F, 0x130, 0x131, 0x212A] := by
      simp only [List.mem_cons, List.not_mem_nil, or_false]
      rw [foldChar, if_neg small] at letter
      split at letter
      · exact .inl ‹_›
      · split at letter
        · rename_i dotted
          rw [Bool.or_eq_true, decide_eq_true_eq, decide_eq_true_eq] at dotted
          exact .inr (dotted.imp_right .inl)
        · split at letter
          · exact .inr (.inr (.inr ‹_›))
          · rw [isAsciiLower, Bool.and_eq_true, decide_eq_true_eq, decide_eq_true_eq] at letter
            exact absurd (Nat.lt_of_le_of_lt (toNat_le_of_le letter.2) (by decide)) small
    have held := List.all_eq_true.mp others _ among
    rwa [Char.ofNat_toNat] at held

theorem all_isWord_of_fold (letters : (fold text).all isAsciiLower = true) :
    text.all isWord = true := by
  rw [fold, List.all_map] at letters
  exact List.all_eq_true.mpr fun char member =>
    isWord_of_foldChar (List.all_eq_true.mp letters char member)

/-- What is left of a text without the blanks in front is what they stand in front of. -/
theorem trimLeft_append {blanks rest : Text} (blank : isBlankText blanks = true)
    (starts : rest.head?.any isBlank = false) : trimLeft (blanks ++ rest) = rest := by
  rw [trimLeft, trimLeftWhile, List.dropWhile_append_of_pos (List.all_eq_true.mp blank)]
  cases rest with
  | nil => rfl
  | cons char rest => rw [List.dropWhile_cons_of_neg (by simpa using starts)]

theorem exists_trimLeft (text : Text) :
    ∃ blanks, isBlankText blanks = true ∧ text = blanks ++ trimLeft text ∧
      (trimLeft text).head?.any isBlank = false := by
  obtain ⟨rest, whole, dropped, stops⟩ := exists_takeWhile isBlank text
  have left : trimLeft text = rest := by
    rw [trimLeft, trimLeftWhile, ← Markdown.drop_length_takeWhile, dropped]
  exact ⟨_, List.all_takeWhile, left ▸ whole, left ▸ stops⟩

theorem startsWith_iff_prefix {start : Text} : startsWith start text = true ↔ start <+: text := by
  rw [startsWith, Option.isSome_iff_exists]
  constructor
  · rintro ⟨more, found⟩
    exact ⟨more, (dropPrefix?_eq_some found).symm⟩
  · rintro ⟨more, rfl⟩
    exact ⟨more, dropPrefix?_append start more⟩

end Text

namespace Guide

variable {line text digits rest body : Text} {number : Option Nat} {fence : Fence} {index : Nat}

/-! ### Verbs -/

/-- Whether a phrase tells to do something, in disregard of case: it is a word that is one of the
verbs or starts with a stem, or it is `set up` with one blank. -/
inductive IsVerbPhrase (phrase : Text) : Prop
  | word (letters : phrase.all isWord = true)
      (verb : fold phrase ∈ verbs ∨ ∃ stem ∈ verbStems, stem <+: fold phrase)
  | setUp (first second : Text) (blank : Char) (shape : phrase = first ++ blank :: second)
      (between : isBlank blank = true) (set : fold first = ['s', 'e', 't'])
      (up : fold second = ['u', 'p'])

/-- Whether a text has such a phrase, and no character of a word next to it. -/
def HoldsVerb (text : Text) : Prop :=
  ∃ before phrase behind, text = before ++ (phrase ++ behind) ∧ IsVerbPhrase phrase ∧
    before.getLast?.any isWord = false ∧ behind.head?.any isWord = false

theorem isVerb_iff {word behind : Text} : isVerb word behind = true ↔
    (fold word ∈ verbs ∨ ∃ stem ∈ verbStems, stem <+: fold word) ∨
      fold word = ['s', 'e', 't'] ∧ ∃ blank rest, behind = blank :: rest ∧ isBlank blank = true ∧
        fold (rest.takeWhile isWord) = ['u', 'p'] := by
  cases behind with
  | nil =>
    simp [isVerb, List.any_eq_true, startsWith_iff_prefix]
  | cons blank rest =>
    simp only [isVerb, Bool.or_eq_true, Bool.and_eq_true, decide_eq_true_eq,
      List.contains_iff_mem, List.any_eq_true, startsWith_iff_prefix, List.cons.injEq]
    refine or_congr_right (and_congr_right fun _ =>
      ⟨fun held => ⟨blank, rest, ⟨rfl, rfl⟩, held⟩, ?_⟩)
    rintro ⟨_, _, ⟨rfl, rfl⟩, held⟩
    exact held

/-- A word in disregard of case is not empty if it tells to do something. -/
theorem ne_nil_of_verb {word : Text}
    (verb : fold word ∈ verbs ∨ ∃ stem ∈ verbStems, stem <+: fold word) : word ≠ [] := by
  rintro rfl
  rcases verb with whole | ⟨stem, member, starts⟩
  · exact absurd whole (by decide)
  · rw [List.prefix_nil.mp starts] at member
    exact absurd member (by decide)

theorem isSome_verb_iff {before : Option Char} : (verb before text).isSome = true ↔
    before.any isWord = false ∧ ∃ phrase behind, text = phrase ++ behind ∧ IsVerbPhrase phrase ∧
      behind.head?.any isWord = false := by
  obtain ⟨behind, whole, dropped, stops⟩ := exists_takeWhile isWord text
  have letters : (text.takeWhile isWord).all isWord = true := List.all_takeWhile
  have asked : (verb before text).isSome = true ↔ before.any isWord = false ∧
      text.takeWhile isWord ≠ [] ∧ isVerb (text.takeWhile isWord) behind = true := by
    rw [verb, dropped, Option.isSome_ite, Bool.and_eq_true, Bool.and_eq_true, Bool.not_eq_true',
      Bool.not_eq_true', List.isEmpty_eq_false_iff, and_assoc]
  rw [asked, isVerb_iff]
  refine and_congr_right fun _ => ⟨?_, ?_⟩
  · rintro ⟨-, verb | ⟨set, blank, rest, rfl, between, up⟩⟩
    · exact ⟨_, behind, whole, .word letters verb, stops⟩
    · obtain ⟨last, rest', -, stops'⟩ := exists_takeWhile isWord rest
      refine ⟨text.takeWhile isWord ++ blank :: rest.takeWhile isWord, last, ?_,
        .setUp _ _ blank rfl between set up, stops'⟩
      rw [List.append_assoc, List.cons_append, ← rest', ← whole]
  · rintro ⟨phrase, last, rfl, ⟨letters', verb⟩ | ⟨first, second, blank, rfl, between, set, up⟩,
      stops'⟩
    · have same := takeWhile_append_of_head letters' stops'
      rw [same]
      exact ⟨ne_nil_of_verb verb, .inl verb⟩
    · have firstWord : first.all isWord = true := all_isWord_of_fold (by rw [set]; decide)
      have secondWord : second.all isWord = true := all_isWord_of_fold (by rw [up]; decide)
      have shape : first ++ blank :: second ++ last = first ++ (blank :: (second ++ last)) := by
        simp
      have same : (first ++ blank :: second ++ last).takeWhile isWord = first := by
        rw [shape]
        exact takeWhile_append_of_head firstWord (by simp [not_isWord_of_isBlank between])
      rw [same] at whole ⊢
      rw [shape] at whole
      rw [← List.append_cancel_left whole]
      have written : first ≠ [] := by
        rintro rfl
        cases set
      refine ⟨written, .inr ⟨set, blank, second ++ last, rfl, between, ?_⟩⟩
      rw [takeWhile_append_of_head secondWord stops']
      exact up

theorem hasVerb_iff : hasVerb text = true ↔ HoldsVerb text := by
  rw [hasVerb, isSome_findFirst?_iff, not_isBare_iff]
  simp only [List.append_nil, lastChar_none, isSome_verb_iff]
  constructor
  · rintro ⟨before, char, rest, rfl, apart, phrase, behind, whole, verb, stops⟩
    exact ⟨before, phrase, behind, by rw [whole], verb, apart, stops⟩
  · rintro ⟨before, phrase, behind, rfl, verb, apart, stops⟩
    have written : phrase ≠ [] := by
      rcases verb with ⟨-, verb⟩ | ⟨first, second, blank, rfl, -⟩
      · exact ne_nil_of_verb verb
      · simp
    obtain ⟨char, rest, rfl⟩ := List.exists_cons_of_ne_nil written
    exact ⟨before, char, rest ++ behind, rfl, apart, char :: rest, behind, rfl, verb, stops⟩

/-! ### What a line tells -/

/-- Whether a line is a number with a point behind it and something more, behind blanks. -/
structure IsNumbered (line digits rest : Text) : Prop where
  shape : ∃ blanks, isBlankText blanks = true ∧ line = blanks ++ (digits ++ '.' :: rest)
  written : digits ≠ []
  number : digits.all isDigit = true
  more : rest ≠ []

/-- Whether a line is a bullet, behind blanks, with blanks and a text behind its mark. -/
structure IsBullet (line body : Text) : Prop where
  shape : ∃ blanks mark gap, isBlankText blanks = true ∧ (mark = '-' ∨ mark = '*') ∧ gap ≠ [] ∧
    isBlankText gap = true ∧ line = blanks ++ mark :: (gap ++ body)
  starts : body.head?.any (!isBlank ·) = true

/-- What a line tells that is a step: the number that its digits write, and the text behind the
point; or, without a number, the text of a bullet that tells to do something. -/
inductive Tells (line : Text) : Option Nat → Text → Prop
  | numbered {digits rest : Text} (shape : IsNumbered line digits rest) :
      Tells line (some (numberOf digits)) (trim rest)
  | bullet {body : Text} (shape : IsBullet line body) (verb : HoldsVerb body) :
      Tells line none (trim body)

theorem IsNumbered.trimLeft_eq (shape : IsNumbered line digits rest) :
    trimLeft line = digits ++ '.' :: rest := by
  obtain ⟨⟨blanks, blank, rfl⟩, written, number, -⟩ := shape
  refine trimLeft_append blank ?_
  obtain ⟨digit, digits, rfl⟩ := List.exists_cons_of_ne_nil written
  refine eq_false_of_ne_true fun digitBlank => ?_
  rw [List.all_cons, not_isDigit_of_isBlank digitBlank] at number
  cases number

theorem IsBullet.trimLeft_eq (shape : IsBullet line body) :
    ∃ mark blank gap, trimLeft line = mark :: blank :: (gap ++ body) ∧
      (mark = '-' ∨ mark = '*') ∧ isBlankText (blank :: gap) = true := by
  obtain ⟨⟨blanks, mark, gap, blank, marked, spaced, gapBlank, rfl⟩, -⟩ := shape
  obtain ⟨first, gap, rfl⟩ := List.exists_cons_of_ne_nil spaced
  refine ⟨mark, first, gap, trimLeft_append blank ?_, marked, gapBlank⟩
  rcases marked with rfl | rfl <;> rfl

theorem numbered?_iff :
    numbered? line = some (digits, text) ↔
      ∃ rest, IsNumbered line digits rest ∧ text = trim rest := by
  constructor
  · intro read
    obtain ⟨blanks, blank, whole, -⟩ := exists_trimLeft line
    obtain ⟨behind, split, dropped, -⟩ := exists_takeWhile isDigit (trimLeft line)
    rw [numbered?, dropped] at read
    split at read
    · rename_i rest
      split at read
      · cases read
      · rename_i written
        rw [Bool.or_eq_true, not_or, List.isEmpty_iff, List.isEmpty_iff] at written
        obtain ⟨rfl, rfl⟩ := Prod.mk.inj (Option.some.inj read)
        exact ⟨rest,
          ⟨⟨blanks, blank, split ▸ whole⟩, written.1, List.all_takeWhile, written.2⟩, rfl⟩
    · cases read
  · rintro ⟨rest, shape, rfl⟩
    rw [numbered?, shape.trimLeft_eq, takeWhile_append_of_head shape.number rfl, List.drop_left]
    exact if_neg (by simp [shape.written, shape.more])

theorem bullet?_iff : bullet? line = some body ↔ IsBullet line body := by
  constructor
  · intro read
    obtain ⟨blanks, blank, whole, -⟩ := exists_trimLeft line
    rw [bullet?] at read
    split at read
    · rename_i mark rest shape
      split at read
      · rename_i fits
        simp only [Bool.and_eq_true, Bool.or_eq_true, decide_eq_true_eq, Bool.not_eq_true'] at fits
        obtain ⟨⟨marked, spaced⟩, filled⟩ := fits
        obtain ⟨gap, gapBlank, split, stops⟩ := exists_trimLeft rest
        obtain rfl := Option.some.inj read
        refine ⟨⟨blanks, mark, gap, blank, marked, ?_, gapBlank, by rw [← split, ← shape, ← whole]⟩,
          ?_⟩
        · rintro rfl
          rw [List.nil_append] at split
          rw [split, stops] at spaced
          cases spaced
        · cases text : trimLeft rest with
          | nil =>
            rw [text, List.append_nil] at split
            rw [split, gapBlank] at filled
            cases filled
          | cons first more =>
            rw [text] at stops
            exact congrArg Bool.not stops
      · cases read
    · cases read
  · intro shape
    obtain ⟨mark, first, gap, left, marked, gapBlank⟩ := shape.trimLeft_eq
    have starts := shape.starts
    have behind : trimLeft (first :: (gap ++ body)) = body := by
      refine @trimLeft_append (first :: gap) body gapBlank ?_
      cases body with
      | nil => rfl
      | cons char body => simpa using starts
    have solid : isBlankText (first :: (gap ++ body)) = false := by
      cases body with
      | nil => cases starts
      | cons char body => simp_all [isBlankText]
    have blank : isBlank first = true := List.all_eq_true.mp gapBlank _ List.mem_cons_self
    rw [bullet?, left]
    dsimp only
    rw [behind]
    exact if_pos (by simp [marked, blank, solid])

/-- A line that is a step starts, behind blanks, with a digit or with the mark of a bullet. -/
theorem Tells.head?_trimLeft (told : Tells line number text) :
    (trimLeft line).head?.any (fun char => isDigit char || char = '-' || char = '*') = true := by
  cases told with
  | numbered shape =>
    obtain ⟨digit, digits, same⟩ := List.exists_cons_of_ne_nil shape.written
    have number := shape.number
    rw [same, List.all_cons, Bool.and_eq_true] at number
    simp [shape.trimLeft_eq, same, number.1]
  | bullet shape verb =>
    obtain ⟨mark, blank, gap, left, marked, -⟩ := shape.trimLeft_eq
    rcases marked with rfl | rfl <;> simp [left]

/-- Whether the number of a line, if it has one, is short enough to be read. -/
def Fits (line : Text) : Prop :=
  ∀ digits rest, IsNumbered line digits rest → digits.length ≤ LongInteger.limit

/-- What a line is taken for that opens no region. -/
inductive Taken (offset : Int) (index : Nat) (line : Text) :
    Except LongInteger (Option Step) → Prop
  | silent (fits : Fits line) (silent : ∀ number text, ¬ Tells line number text) :
      Taken offset index line (.ok none)
  | step (fits : Fits line) (number : Option Nat) (text : Text) (told : Tells line number text) :
      Taken offset index line (.ok (some ⟨number, text, none, some (offset + index)⟩))
  | refused (long : ¬ Fits line) (refusal : LongInteger) :
      Taken offset index line (.error refusal)

theorem taken_stepOf? (offset : Int) (index : Nat) (line : Text) :
    Taken offset index line (stepOf? offset index line) := by
  rw [stepOf?]
  cases numbered : numbered? line with
  | some found =>
    obtain ⟨digits, text⟩ := found
    obtain ⟨rest, shape, rfl⟩ := numbered?_iff.mp numbered
    dsimp only
    rw [LongInteger.check]
    split
    · rename_i long
      exact .refused (fun fits => Nat.not_le_of_gt long (fits digits rest shape)) _
    · rename_i short
      refine .step (fun others rest shape => ?_) _ _ (.numbered shape)
      have read := numbered?_iff.mpr ⟨rest, shape, rfl⟩
      rw [numbered] at read
      obtain ⟨rfl, -⟩ := Prod.mk.inj (Option.some.inj read)
      exact Nat.le_of_not_lt short
  | none =>
    have noNumber (digits rest : Text) : ¬ IsNumbered line digits rest := fun shape => by
      have read := numbered?_iff.mpr ⟨rest, shape, rfl⟩
      rw [numbered] at read
      cases read
    have fits : Fits line := fun digits rest shape => absurd shape (noNumber digits rest)
    cases bullet : bullet? line with
    | some body =>
      dsimp only
      split
      · exact .step fits _ _ (.bullet (bullet?_iff.mp bullet) (hasVerb_iff.mp ‹_›))
      · refine .silent fits fun number text told => ?_
        cases told with
        | numbered shape => exact noNumber _ _ shape
        | bullet other verb =>
          rw [← bullet?_iff, bullet] at other
          obtain rfl := Option.some.inj other
          exact absurd (hasVerb_iff.mpr verb) ‹_›
    | none =>
      refine .silent fits fun number text told => ?_
      cases told with
      | numbered shape => exact noNumber _ _ shape
      | bullet shape verb =>
        rw [← bullet?_iff, bullet] at shape
        cases shape

/-! ### Fences -/

/-- Whether a line opens a region: at most twelve spaces, three or more of the region's mark, and
what names its language. -/
structure Opens (line : Text) (fence : Fence) : Prop where
  indent : fence.indent ≤ 12
  mark : fence.mark = '\x60' ∨ fence.mark = '~'
  size : 3 ≤ fence.size
  shape : ∃ info, line = List.replicate fence.indent ' ' ++
    (List.replicate fence.size fence.mark ++ info) ∧
    info.head? ≠ some fence.mark ∧ fence.language = languageOf info

/-- Whether a line closes a region: between blanks it is the region's mark, at least as often as in
the line that opens the region. -/
def IsClosing (fence : Fence) (line : Text) : Prop :=
  ∃ count, fence.size ≤ count ∧ trim line = List.replicate count fence.mark

theorem isClosedBy_iff : fence.isClosedBy line = true ↔ IsClosing fence line := by
  rw [Fence.isClosedBy, Bool.and_eq_true, decide_eq_true_eq]
  constructor
  · rintro ⟨long, all⟩
    refine ⟨_, long, List.eq_replicate_iff.mpr ⟨rfl, fun char member => ?_⟩⟩
    exact of_decide_eq_true (List.all_eq_true.mp all char member)
  · rintro ⟨count, long, whole⟩
    rw [whole]
    simp [long]

theorem indent_of_opens? (opened : opens? index line = some fence) : fence.indent ≤ 12 := by
  rw [opens?] at opened
  dsimp only at opened
  split at opened
  · split at opened
    · rename_i fits
      simp only [Bool.and_eq_true, decide_eq_true_eq] at fits
      rw [← Option.some.inj opened]
      exact fits.1.2
    · cases opened
  · cases opened

theorem opens?_iff :
    opens? index line = some fence ↔ fence.start = index ∧ fence.body = [] ∧ Opens line fence := by
  constructor
  · intro opened
    obtain ⟨start, empty⟩ := start_of_opens? opened
    obtain ⟨whole, head, mark, size, language⟩ := parts_of_opens? opened
    exact ⟨start, empty, indent_of_opens? opened, mark, size, _, whole, head, language⟩
  · rintro ⟨start, empty, indent, marked, long, info, rfl, head, named⟩
    obtain ⟨mark, size, spaces, language, first, body⟩ := fence
    subst start empty named
    obtain ⟨more, rfl⟩ := Nat.exists_eq_add_one.mpr (Nat.lt_of_lt_of_le (by decide : 0 < 3) long)
    have noSpace : decide (mark = ' ') = false := by
      rcases marked with rfl | rfl <;> rfl
    have margin : (List.replicate spaces ' ' ++ (List.replicate (more + 1) mark ++ info)).takeWhile
        (· = ' ') = List.replicate spaces ' ' :=
      takeWhile_append_of_head (by simp) (by simpa [List.replicate_succ] using noSpace)
    have marks : (List.replicate (more + 1) mark ++ info).takeWhile (· = mark) =
        List.replicate (more + 1) mark := by
      refine takeWhile_append_of_head (by simp) ?_
      cases info with
      | nil => rfl
      | cons char info => simpa using head
    have rest : List.replicate (more + 1) mark ++ info =
      mark :: (List.replicate more mark ++ info) := rfl
    rw [opens?, margin, List.length_replicate]
    dsimp only
    rw [List.drop_left' (List.length_replicate), rest]
    dsimp only
    rw [← rest, marks, List.length_replicate, List.drop_left' (List.length_replicate)]
    exact if_pos (by simpa [indent, marked] using long)

/-- A line that opens a region is no step. -/
theorem Opens.not_tells (opens : Opens line fence) : ¬ Tells line number text := by
  intro told
  obtain ⟨info, rfl, -⟩ := opens.shape
  have first := told.head?_trimLeft
  obtain ⟨more, size⟩ :=
    Nat.exists_eq_add_one.mpr (Nat.lt_of_lt_of_le (by decide : 0 < 3) opens.size)
  have blanks : isBlankText (List.replicate fence.indent ' ') = true := by
    simp [isBlankText, show isBlank ' ' = true by decide]
  have mark := opens.mark
  rw [size, List.replicate_succ, trimLeft_append blanks (by rcases mark with same | same <;>
    rw [same] <;> rfl)] at first
  rcases mark with same | same <;> rw [same] at first <;> cases first

end Guide

end GuidedMigration
