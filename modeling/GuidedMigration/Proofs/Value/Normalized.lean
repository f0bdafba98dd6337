/-
This file says what the two passes of normalization make of a text. In each place the first pass
either leaves the text or puts a placeholder, and the second pass looks for words, which no
placeholder joins with what stands beside it. So the result is known from one cut of the text into
forms: each form is replaced on its own. Where the name in a form begins with `YOUR_`, the second
pass makes a placeholder inside the placeholder; this is the only reason for which normalization
changes a placeholder, or changes a text a second time.
-/
import GuidedMigration.Proofs.Value.PlaceholderName

namespace GuidedMigration.Placeholder

open Text

variable {before other : Option Char} {char : Char} {name phrase inner text rest : Text}

/-! ### The first pass -/

/-- A text that stands behind a character after the first pass. -/
def bracketed (before : Option Char) (text : Text) : Text :=
  replaceFrom angleToken (ofName ∘ nameOf) before text

theorem bracketed_of_ne (different : char ≠ '<') :
    bracketed before (char :: text) = char :: bracketed (some char) text :=
  replaceFrom_plain (angleToken_of_ne different)

/-- A text without angle brackets stays in the first pass. -/
theorem bracketed_append (plain : '<' ∉ text) (before : Option Char) (rest : Text) :
    bracketed before (text ++ rest) = text ++ bracketed (lastChar before text) rest := by
  induction text generalizing before with
  | nil => rfl
  | cons char text inductionHypothesis =>
    rw [List.mem_cons, not_or] at plain
    rw [List.cons_append, bracketed_of_ne (Ne.symm plain.1), inductionHypothesis plain.2]
    rfl

theorem bracketed_angle (fits : isPhrase phrase = true) (before : Option Char) (rest : Text) :
    bracketed before ((Form.angle phrase).written ++ rest) =
      ofName (nameOf phrase) ++ bracketed (some '>') rest := by
  have found : angleToken before ((Form.angle phrase).written ++ rest) = _ :=
    angleToken_eq_some.mpr ⟨fits, rfl, rest, rfl⟩
  have last : lastChar before (Form.angle phrase).written = some '>' := by
    simp [Form.written, lastChar_append, lastChar]
  rw [bracketed, replaceFrom_found (written_ne_nil _) found, last]
  rfl

theorem takeWhile_isWord_cons (mark : isWord char = false) (text : Text) :
    (char :: text).takeWhile isWord = [] :=
  List.takeWhile_cons_of_neg (by simp [mark])

/-- The first pass changes no word that a text begins with. -/
theorem takeWhile_bracketed (before : Option Char) (text : Text) :
    (bracketed before text).takeWhile isWord = text.takeWhile isWord := by
  induction text generalizing before with
  | nil => rfl
  | cons char text inductionHypothesis =>
    by_cases bracket : char = '<'
    · subst bracket
      rw [takeWhile_isWord_cons (by decide) text]
      cases angle : angleToken before ('<' :: text) with
      | none =>
        rw [bracketed, replaceFrom_plain angle]
        exact takeWhile_isWord_cons (by decide) _
      | some found =>
        obtain ⟨phrase, length⟩ := found
        obtain ⟨fits, -, rest, cut⟩ := angleToken_eq_some.mp angle
        have here := bracketed_angle fits before rest
        rw [Form.written, ← cut] at here
        rw [here]
        exact takeWhile_isWord_cons (by decide) _
    · rw [bracketed_of_ne bracket]
      cases word : isWord char with
      | true =>
        rw [List.takeWhile_cons_of_pos word, List.takeWhile_cons_of_pos word, inductionHypothesis]
      | false => rw [takeWhile_isWord_cons word, takeWhile_isWord_cons word]

/-! ### The second pass -/

/-- A text that stands behind a character after the second pass. -/
def worded (before : Option Char) (text : Text) : Text := replaceFrom yourToken ofName before text

theorem yourToken_of_not_isWord (mark : isWord char = false) :
    yourToken before (char :: text) = none := by
  refine Option.eq_none_iff_forall_ne_some.mpr fun ⟨name, length⟩ found => ?_
  obtain ⟨-, -, -, word⟩ := yourToken_eq_some.mp found
  rw [List.takeWhile_cons_of_neg (by simp [mark])] at word
  cases word

theorem yourToken_of_isWord (within : before.any isWord = true) : yourToken before text = none := by
  rw [yourToken, if_pos within]

/-- Whether a word is one of those that stand for a name depends on the word alone. -/
theorem yourToken_of_takeWhile {word : Text}
    (sameWord : word.takeWhile isWord = text.takeWhile isWord)
    (sameEdge : other.any isWord = before.any isWord) :
    yourToken other word = yourToken before text := by
  refine Option.ext fun ⟨name, length⟩ => ?_
  rw [yourToken_eq_some, yourToken_eq_some, sameWord, sameEdge]

theorem isBare_yourToken (within : before.any isWord = true) (word : text.all isWord = true)
    (rest : Text) : IsBare yourToken before text rest := by
  induction text generalizing before with
  | nil => exact isBare_nil
  | cons char text inductionHypothesis =>
    rw [List.all_cons, Bool.and_eq_true] at word
    exact isBare_cons.mpr ⟨yourToken_of_isWord within,
      inductionHypothesis (Option.any_some.trans word.1) word.2⟩

theorem worded_of_not_isWord (mark : isWord char = false) :
    worded before (char :: text) = char :: worded (some char) text :=
  replaceFrom_plain (yourToken_of_not_isWord mark)

theorem yourToken_written (fits : (Form.your name).fits before rest.head? = true) :
    yourToken before ((Form.your name).written ++ rest) =
      some (name, (Form.your name).written.length) := by
  simp only [Form.fits, Bool.and_eq_true, Bool.not_eq_true'] at fits
  obtain ⟨named, word⟩ := takeWhile_your.mpr ⟨rest, rfl, fits.1.1, fits.2⟩
  exact yourToken_eq_some.mpr ⟨fits.1.2, named, rfl, word⟩

theorem takeWhile_name (all : name.all isNameChar = true) (rest : Text) :
    (name ++ '\x7d' :: rest).takeWhile isWord = name := by
  refine takeWhile_append_of_head ?_ rfl
  rw [List.all_eq_true] at all ⊢
  exact fun char member => isWord_of_isNameChar (all char member)

theorem yourToken_of_yourName? (all : name.all isNameChar = true) (other : yourName? name = none)
    (before : Option Char) (rest : Text) : yourToken before (name ++ '\x7d' :: rest) = none := by
  refine Option.eq_none_iff_forall_ne_some.mpr fun ⟨inner, length⟩ found => ?_
  obtain ⟨-, fits, -, word⟩ := yourToken_eq_some.mp found
  rw [takeWhile_name all] at word
  rw [yourName?_eq_some.mpr ⟨word, fits⟩] at other
  cases other

/-- The second pass finds a name behind `YOUR_` in a placeholder, if its name consists of it. -/
theorem worded_ofName (all : name.all isNameChar = true) (before : Option Char) (rest : Text) :
    worded before (ofName name ++ rest) =
      (Form.proper name).normalized ++ worded (some '\x7d') rest := by
  have words : name.all isWord = true := by
    rw [List.all_eq_true] at all ⊢
    exact fun char member => isWord_of_isNameChar (all char member)
  have opening : ofName name ++ rest = '$' :: '\x7b' :: (name ++ '\x7d' :: rest) := by simp [ofName]
  rw [opening, worded_of_not_isWord (by decide), worded_of_not_isWord (by decide)]
  cases behind : yourName? name with
  | none =>
    have first := yourToken_of_yourName? all behind (some '\x7b') rest
    have bare : IsBare yourToken (some '\x7b') name ('\x7d' :: rest) := by
      cases name with
      | nil => exact isBare_nil
      | cons char name =>
        rw [List.all_cons, Bool.and_eq_true] at words
        exact isBare_cons.mpr ⟨first, isBare_yourToken (Option.any_some.trans words.1) words.2 _⟩
    rw [worded, replaceFrom_append_of_isBare bare, ← worded, worded_of_not_isWord (by decide)]
    simp [Form.normalized, Form.inner?, Form.named, behind, ofName]
  | some inner =>
    obtain ⟨same, fits⟩ := yourName?_eq_some.mp behind
    have found : yourToken (some '\x7b') (name ++ '\x7d' :: rest) = some (inner, name.length) :=
      yourToken_eq_some.mpr
        ⟨by decide, fits, congrArg List.length same, (takeWhile_name all rest).trans same⟩
    have written : name ≠ [] := same ▸ List.cons_ne_nil _ _
    rw [worded, replaceFrom_found written found, ← worded, worded_of_not_isWord (by decide)]
    simp [Form.normalized, Form.inner?, behind, ofName]

/-! ### Both passes -/

/-- Normalization replaces each form of a text on its own. -/
theorem worded_bracketed (sameEdge : other.any isWord = before.any isWord) :
    worded other (bracketed before text) =
      (scanFrom form 0 before text).flatMap (Piece.shown Form.normalized) := by
  induction before, text using formInduction generalizing other with
  | nil before => rfl
  | plain before char text missing inductionHypothesis =>
    obtain ⟨-, angle, your⟩ := form_eq_none.mp missing
    have first : bracketed before (char :: text) = char :: bracketed (some char) text :=
      replaceFrom_plain angle
    have second := yourToken_of_takeWhile (takeWhile_bracketed before (char :: text)) sameEdge
    rw [your, first] at second
    rw [scanFrom_plain missing, List.flatMap_cons, ← inductionHypothesis rfl, first, worded,
      replaceFrom_plain second]
    rfl
  | found before found rest fits inductionHypothesis =>
    rw [scanFrom_written fits, List.flatMap_cons]
    cases found with
    | proper name =>
      have all : name.all isNameChar = true := (Bool.and_eq_true _ _ ▸ fits).2
      have later := @inductionHypothesis (some '\x7d') (by rw [Form.written, lastChar_ofName])
      have clean := not_mem_written fits fun _ same => (by cases same)
      rw [bracketed_append clean, Form.written, worded_ofName all]
      exact congrArg _ later
    | angle phrase =>
      have later := @inductionHypothesis (some '\x7d') (by rw [lastChar_angle]; rfl)
      rw [lastChar_angle] at later
      rw [bracketed_angle fits, worded_ofName (all_isNameChar_nameOf phrase), lastChar_angle]
      exact congrArg _ later
    | your name =>
      have clean := not_mem_written fits fun _ same => (by cases same)
      have found := yourToken_of_takeWhile
        (takeWhile_bracketed before ((Form.your name).written ++ rest)) sameEdge
      rw [yourToken_written fits, bracketed_append clean] at found
      have later := @inductionHypothesis (lastChar other (Form.your name).written)
        (by rw [lastChar_of_ne_nil (written_ne_nil _) other before])
      rw [bracketed_append clean, worded, replaceFrom_found (written_ne_nil _) found]
      exact congrArg _ later

theorem normalize_eq (text : Text) :
    normalize text = (scan form text).flatMap (Piece.shown Form.normalized) :=
  worded_bracketed rfl

/-! ### The cut of a normalized text -/

/-- A text that stands behind a character after normalization. -/
def settled (before : Option Char) (text : Text) : Text :=
  (scanFrom form 0 before text).flatMap (Piece.shown Form.normalized)

theorem settled_plain (missing : form before (char :: text) = none) :
    settled before (char :: text) = char :: settled (some char) text := by
  rw [settled, scanFrom_plain missing]
  rfl

theorem settled_written {found : Form} (fits : found.fits before rest.head? = true) :
    settled before (found.written ++ rest) =
      found.normalized ++ settled (lastChar before found.written) rest := by
  rw [settled, scanFrom_written fits]
  rfl

theorem exists_normalized_eq (found : Form) : ∃ more, found.normalized = '$' :: more := by
  rw [Form.normalized]
  split <;> exact ⟨_, rfl⟩

/-- What a normalized text begins with and what holds no dollar sign was there before. -/
theorem exists_of_settled_eq {part : Text} (clean : '$' ∉ part)
    (begins : settled before text = part ++ rest) : ∃ behind, text = part ++ behind := by
  induction part generalizing before text with
  | nil => exact ⟨text, rfl⟩
  | cons first part inductionHypothesis =>
    rw [List.mem_cons, not_or] at clean
    cases text with
    | nil => cases begins
    | cons char text =>
      cases here : form before (char :: text) with
      | none =>
        rw [settled_plain here, List.cons_append] at begins
        obtain ⟨rfl, more⟩ := List.cons.inj begins
        obtain ⟨behind, rfl⟩ := inductionHypothesis clean.2 more
        exact ⟨behind, rfl⟩
      | some recognised =>
        obtain ⟨-, behind, cut, fits⟩ := form_eq_some.mp here
        obtain ⟨more, dollar⟩ := exists_normalized_eq recognised.1
        rw [cut, settled_written fits, dollar, List.cons_append, List.cons_append] at begins
        exact absurd (List.cons.inj begins).1 clean.1

/-- Normalization does not touch the rest of a word. -/
theorem takeWhile_settled (within : before.any isWord = true) (text : Text) :
    (settled before text).takeWhile isWord = text.takeWhile isWord := by
  induction text generalizing before with
  | nil => rfl
  | cons char text inductionHypothesis =>
    cases here : form before (char :: text) with
    | none =>
      rw [settled_plain here]
      cases word : isWord char with
      | true =>
        rw [List.takeWhile_cons_of_pos word, List.takeWhile_cons_of_pos word,
          inductionHypothesis (Option.any_some.trans word)]
      | false => rw [takeWhile_isWord_cons word, takeWhile_isWord_cons word]
    | some recognised =>
      obtain ⟨found, length⟩ := recognised
      obtain ⟨-, behind, cut, fits⟩ := form_eq_some.mp here
      obtain ⟨more, dollar⟩ := exists_normalized_eq found
      rw [cut, settled_written fits, dollar, List.cons_append, takeWhile_isWord_cons (by decide)]
      cases found with
      | proper name => exact (takeWhile_isWord_cons (by decide) _).symm
      | angle phrase => exact (takeWhile_isWord_cons (by decide) _).symm
      | your name => simp [Form.fits, within] at fits

/-- The cut of what is written like a placeholder. -/
def cutOf (name : Text) : List (Piece Form) :=
  if isName name then [.found (.proper name)] else (ofName name).map .plain

theorem scanFrom_mark (noDollar : char ≠ '$') (noBracket : char ≠ '<')
    (mark : isWord char = false) (before : Option Char) (text : Text) :
    scanFrom form 0 before (char :: text) = .plain char :: scanFrom form 0 (some char) text :=
  scanFrom_plain (form_eq_none.mpr
    ⟨token_of_ne noDollar, angleToken_of_ne noBracket, yourToken_of_not_isWord mark⟩)

theorem all_isNameChar_of_isYourName (fits : isYourName name = true) :
    name.all isNameChar = true := by
  rw [isYourName, Bool.and_eq_true] at fits
  rw [List.all_eq_true]
  exact fun char member => isNameChar_of_isYourChar (List.all_eq_true.mp fits.2 char member)

theorem all_isNameChar_named {found : Form} {after : Option Char}
    (fits : found.fits before after = true) : found.named.all isNameChar = true := by
  cases found with
  | proper name => exact (Bool.and_eq_true _ _ ▸ fits).2
  | angle phrase => exact all_isNameChar_nameOf phrase
  | your name =>
    simp only [Form.fits, Bool.and_eq_true] at fits
    exact all_isNameChar_of_isYourName fits.1.1

theorem isYourName_of_inner? {found : Form} (behind : found.inner? = some inner) :
    isYourName inner = true := by
  cases found with
  | proper name => exact (yourName?_eq_some.mp behind).2
  | angle phrase => exact (yourName?_eq_some.mp behind).2
  | your name => cases behind

theorem yourName?_of_not_isName (unnamed : ¬isName name = true) : yourName? name = none := by
  refine Option.eq_none_iff_forall_ne_some.mpr fun inner behind => unnamed ?_
  obtain ⟨rfl, fits⟩ := yourName?_eq_some.mp behind
  have all : yourMark.all isNameChar = true := by decide
  rw [isName, List.all_append, all, all_isNameChar_of_isYourName fits]
  rfl

theorem isBare_form_of_word (within : before.any isWord = true) (all : text.all isNameChar = true)
    (rest : Text) : IsBare form before text rest := by
  induction text generalizing before with
  | nil => exact isBare_nil
  | cons char text inductionHypothesis =>
    rw [List.all_cons, Bool.and_eq_true] at all
    have word := isWord_of_isNameChar all.1
    have noDollar : char ≠ '$' := by rintro rfl; exact absurd word (by decide)
    have noBracket : char ≠ '<' := by rintro rfl; exact absurd word (by decide)
    exact isBare_cons.mpr ⟨form_eq_none.mpr ⟨token_of_ne noDollar, angleToken_of_ne noBracket,
      yourToken_of_isWord within⟩, inductionHypothesis (Option.any_some.trans word) all.2⟩

theorem scanFrom_ofName (all : name.all isNameChar = true) (before : Option Char) (rest : Text) :
    scanFrom form 0 before (ofName name ++ rest) =
      cutOf name ++ scanFrom form 0 (some '\x7d') rest := by
  rw [cutOf]
  split
  · rename_i named
    have fits : (Form.proper name).fits before rest.head? = true := named
    have found := scanFrom_written fits
    rwa [Form.written, lastChar_ofName] at found
  · rename_i unnamed
    have bare : IsBare form (some '\x7b') name ('\x7d' :: rest) := by
      have noYour := yourToken_of_yourName? all (yourName?_of_not_isName unnamed) (some '\x7b') rest
      cases name with
      | nil => exact isBare_nil
      | cons char name =>
        rw [List.all_cons, Bool.and_eq_true] at all
        have word := isWord_of_isNameChar all.1
        have noDollar : char ≠ '$' := by rintro rfl; exact absurd word (by decide)
        have noBracket : char ≠ '<' := by rintro rfl; exact absurd word (by decide)
        exact isBare_cons.mpr
          ⟨form_eq_none.mpr ⟨token_of_ne noDollar, angleToken_of_ne noBracket, noYour⟩,
            isBare_form_of_word (Option.any_some.trans word) all.2 _⟩
    have opening : ofName name ++ rest = '$' :: '\x7b' :: (name ++ '\x7d' :: rest) := by
      simp [ofName]
    have first : form before ('$' :: '\x7b' :: (name ++ '\x7d' :: rest)) = none := by
      rw [← opening]
      exact form_eq_none.mpr ⟨token_of_not_isName all unnamed before rest,
        angleToken_of_ne (by decide), yourToken_of_not_isWord (by decide)⟩
    rw [opening, scanFrom_plain first, scanFrom_mark (by decide) (by decide) (by decide),
      scanFrom_append_of_isBare bare, scanFrom_mark (by decide) (by decide) (by decide)]
    simp [ofName]

/-- The cut of what normalization makes of a piece. -/
def rescanned : Piece Form → List (Piece Form)
  | .plain char => [.plain char]
  | .found found => match found.inner? with
    | some inner => .plain '$' :: .plain '\x7b' :: cutOf inner ++ [.plain '\x7d']
    | none => cutOf found.named

/-- Normalization makes no form begin at a character at which none begins. -/
theorem form_settled (missing : form before (char :: text) = none)
    (sameEdge : other.any isWord = before.any isWord ∨ isWord char = false) :
    form other (char :: settled (some char) text) = none := by
  obtain ⟨noToken, noAngle, noYour⟩ := form_eq_none.mp missing
  refine form_eq_none.mpr ⟨?noToken, ?noAngle, ?noYour⟩
  case noToken =>
    refine Option.eq_none_iff_forall_ne_some.mpr fun ⟨name, length⟩ found => ?_
    obtain ⟨named, -, rest, cut⟩ := token_eq_some.mp found
    obtain ⟨rfl, more⟩ := List.cons.inj cut
    have clean : '$' ∉ name := not_mem_of_all (Bool.and_eq_true _ _ ▸ named).2 (by decide)
    obtain ⟨behind, rfl⟩ := exists_of_settled_eq (by simp [clean]) more
    cases noToken.symm.trans (token_eq_some.mpr ⟨named, rfl, behind, rfl⟩)
  case noAngle =>
    refine Option.eq_none_iff_forall_ne_some.mpr fun ⟨phrase, length⟩ found => ?_
    obtain ⟨fits, -, rest, cut⟩ := angleToken_eq_some.mp found
    obtain ⟨rfl, more⟩ := List.cons.inj cut
    have clean : '$' ∉ phrase := not_mem_of_all (Bool.and_eq_true _ _ ▸ fits).2 (by decide)
    obtain ⟨behind, rfl⟩ := exists_of_settled_eq (by simp [clean]) more
    cases noAngle.symm.trans (angleToken_eq_some.mpr ⟨fits, rfl, behind, rfl⟩)
  case noYour =>
    cases word : isWord char with
    | false => exact yourToken_of_not_isWord word
    | true =>
      have edge := sameEdge.resolve_right (by simp [word])
      rw [← noYour]
      refine yourToken_of_takeWhile ?_ edge
      rw [List.takeWhile_cons_of_pos word, List.takeWhile_cons_of_pos word,
        takeWhile_settled (Option.any_some.trans word)]

/-- A normalized text is cut where the text was cut. -/
theorem scanFrom_settled
    (sameEdge : other.any isWord = before.any isWord ∨ text.head?.any isWord = false) :
    scanFrom form 0 other (settled before text) =
      (scanFrom form 0 before text).flatMap rescanned := by
  induction before, text using formInduction generalizing other with
  | nil before => rfl
  | plain before char text missing inductionHypothesis =>
    rw [settled_plain missing, scanFrom_plain missing,
      scanFrom_plain (form_settled missing sameEdge), inductionHypothesis (Or.inl rfl)]
    rfl
  | found before found rest fits inductionHypothesis =>
    have later : scanFrom form 0 (some '\x7d') (settled (lastChar before found.written) rest) =
        (scanFrom form 0 (lastChar before found.written) rest).flatMap rescanned := by
      refine inductionHypothesis ?_
      cases found with
      | proper name => exact Or.inl (by rw [Form.written, lastChar_ofName])
      | angle phrase => exact Or.inl (by rw [lastChar_angle]; rfl)
      | your name =>
        simp only [Form.fits, Bool.and_eq_true, Bool.not_eq_true'] at fits
        exact Or.inr fits.2
    rw [settled_written fits, scanFrom_written fits, List.flatMap_cons, ← later, rescanned,
      Form.normalized]
    cases behind : found.inner? with
    | none => exact scanFrom_ofName (all_isNameChar_named fits) other _
    | some inner =>
      have all := all_isNameChar_of_isYourName (isYourName_of_inner? behind)
      have opening (rest : Text) : ofName (ofName inner) ++ rest =
          '$' :: '\x7b' :: (ofName inner ++ '\x7d' :: rest) := by simp [ofName]
      have first (rest : Text) : form other ('$' :: '\x7b' :: (ofName inner ++ rest)) = none := by
        refine form_eq_none.mpr
          ⟨Option.eq_none_iff_forall_ne_some.mpr fun recognised found => ?_,
            angleToken_of_ne (by decide), yourToken_of_not_isWord (by decide)⟩
        obtain ⟨name, length⟩ := recognised
        obtain ⟨named, -, rest, cut⟩ := token_eq_some.mp found
        cases name with
        | nil => cases named
        | cons start name =>
          obtain ⟨rfl, -⟩ := List.cons.inj (List.cons.inj (List.cons.inj cut).2).2
          cases named
      dsimp only
      rw [opening, scanFrom_plain (first _), scanFrom_mark (by decide) (by decide) (by decide),
        scanFrom_ofName all, scanFrom_mark (by decide) (by decide) (by decide)]
      simp

theorem scan_normalize (text : Text) :
    scan form (normalize text) = (scan form text).flatMap rescanned := by
  rw [normalize_eq]
  exact scanFrom_settled (Or.inl rfl)

/-! ### Normalizing again -/

theorem flatMap_shown_cutOf (name : Text) :
    (cutOf name).flatMap (Piece.shown Form.normalized) = (Form.proper name).normalized := by
  rw [cutOf]
  split
  · exact List.append_nil _
  · rename_i unnamed
    have whole : (Form.proper name).normalized = ofName name := by
      simp [Form.normalized, Form.inner?, Form.named, yourName?_of_not_isName unnamed]
    rw [whole, List.flatMap_map]
    exact List.flatMap_singleton' _

theorem normalized_of_yourName? (other : yourName? name = none) :
    (Form.proper name).normalized = ofName name := by
  simp [Form.normalized, Form.inner?, Form.named, other]

/-- A placeholder that is changed gets shorter. -/
theorem length_normalized (behind : yourName? name = some inner) :
    (Form.proper name).normalized.length < (ofName name).length := by
  have changed : (Form.proper name).normalized = ofName (ofName inner) := by
    simp [Form.normalized, Form.inner?, behind]
  obtain ⟨rfl, -⟩ := yourName?_eq_some.mp behind
  rw [changed]
  simp only [ofName, yourMark, List.length_append, List.length_cons, List.length_nil]
  omega

/-- What becomes of a form when it is normalized twice. -/
def Form.renormalized (found : Form) : Text :=
  (rescanned (.found found)).flatMap (Piece.shown Form.normalized)

/-- The second normalization keeps what the first one made of a form, or shortens it. -/
theorem renormalized_cases (found : Form) :
    yourName? found.kept = none ∧ found.renormalized = found.normalized ∨
      yourName? found.kept ≠ none ∧ found.renormalized.length < found.normalized.length := by
  rw [Form.renormalized, rescanned, Form.normalized, Form.kept]
  cases found.inner? with
  | none =>
    dsimp only [Option.getD_none]
    rw [flatMap_shown_cutOf]
    cases again : yourName? found.named with
    | none => exact Or.inl ⟨rfl, normalized_of_yourName? again⟩
    | some inner => exact Or.inr ⟨Option.some_ne_none _, length_normalized again⟩
  | some name =>
    dsimp only [Option.getD_some]
    have whole : (Piece.plain '$' :: Piece.plain '\x7b' :: cutOf name ++
        [Piece.plain '\x7d']).flatMap (Piece.shown Form.normalized) =
          '$' :: '\x7b' :: ((Form.proper name).normalized ++ ['\x7d']) := by
      rw [← flatMap_shown_cutOf]
      simp [Piece.shown]
    rw [whole]
    cases again : yourName? name with
    | none =>
      rw [normalized_of_yourName? again]
      exact Or.inl ⟨rfl, rfl⟩
    | some inner =>
      refine Or.inr ⟨Option.some_ne_none _, ?_⟩
      have shorter := length_normalized again
      simp only [ofName, List.length_append, List.length_cons, List.length_nil] at shorter ⊢
      omega

/-- Pieces that are kept or shortened are all kept if the whole is kept. -/
theorem flatMap_eq_flatMap_iff {Part : Type} {first second : Part → Text} {parts : List Part}
    (cases' : ∀ part, first part = second part ∨ (first part).length < (second part).length) :
    parts.flatMap first = parts.flatMap second ↔ ∀ part ∈ parts, first part = second part := by
  have atMost (parts : List Part) :
      (parts.flatMap first).length ≤ (parts.flatMap second).length := by
    induction parts with
    | nil => exact Nat.le_refl _
    | cons part parts inductionHypothesis =>
      rw [List.flatMap_cons, List.flatMap_cons, List.length_append, List.length_append]
      refine Nat.add_le_add ?_ inductionHypothesis
      exact (cases' part).elim (fun kept => Nat.le_of_eq (congrArg _ kept)) Nat.le_of_lt
  refine ⟨fun same => ?_,
    fun kept => by rw [List.flatMap_def, List.map_congr_left kept, List.flatMap_def]⟩
  induction parts with
  | nil => exact fun _ member => (by cases member)
  | cons part parts inductionHypothesis =>
    rw [List.flatMap_cons, List.flatMap_cons] at same
    rcases cases' part with kept | shorter
    · rw [kept] at same
      exact List.forall_mem_cons.mpr ⟨kept, inductionHypothesis (List.append_cancel_left same)⟩
    · have lengths := congrArg List.length same
      rw [List.length_append, List.length_append] at lengths
      have rest := atMost parts
      omega

/-- A second normalization changes nothing if no placeholder that the first one leaves has a name of
`YOUR_` and a name, and only then. -/
theorem normalize_normalize_iff (text : Text) :
    normalize (normalize text) = normalize text ↔
      ∀ found ∈ findAll form text, yourName? found.kept = none := by
  have twice : normalize (normalize text) = (scan form text).flatMap fun piece =>
      (rescanned piece).flatMap (Piece.shown Form.normalized) := by
    rw [normalize_eq (normalize text), scan_normalize, List.flatMap_assoc]
  rw [twice, normalize_eq text, flatMap_eq_flatMap_iff]
  · constructor
    · intro kept found member
      refine (renormalized_cases found).elim And.left fun changed => ?_
      have same := kept _ (mem_findAll.mp member)
      exact absurd (congrArg List.length same) (Nat.ne_of_lt changed.2)
    · intro kept piece member
      cases piece with
      | plain char => rfl
      | found found =>
        refine (renormalized_cases found).elim And.right fun changed => ?_
        exact absurd (kept found (mem_findAll.mpr member)) changed.1
  · intro piece
    cases piece with
    | plain char => exact Or.inl rfl
    | found found => exact (renormalized_cases found).imp And.right And.right

/-! ### The placeholders of a normalized text -/

theorem filterMap_proper?_cutOf (name : Text) :
    ((cutOf name).filterMap Piece.found?).filterMap Form.proper? = [name].filter isName := by
  rw [cutOf]
  split
  · rename_i named
    rw [List.filter_cons_of_pos named]
    rfl
  · rename_i unnamed
    rw [filterMap_found?_plain, List.filter_cons_of_neg unnamed]
    rfl

/-- A normalized text holds the placeholders that are left of the forms of the text, and no
others. -/
theorem namesInText_normalize (text : Text) :
    namesInText (normalize text) = ((findAll form text).map Form.kept).filter isName := by
  rw [namesInText_eq, findAll_eq, findAll_eq, scan_normalize]
  induction scan form text with
  | nil => rfl
  | cons piece pieces inductionHypothesis =>
    rw [List.flatMap_cons, List.filterMap_append, List.filterMap_append, inductionHypothesis]
    cases piece with
    | plain char => rfl
    | found found =>
      have here : ((rescanned (.found found)).filterMap Piece.found?).filterMap Form.proper? =
          [found.kept].filter isName := by
        rw [rescanned, Form.kept]
        cases found.inner? with
        | none => exact filterMap_proper?_cutOf found.named
        | some inner =>
          rw [Option.getD_some, ← filterMap_proper?_cutOf inner]
          refine congrArg (List.filterMap Form.proper?) ?_
          simp [List.filterMap_cons, Piece.found?]
      rw [here, ← List.filter_append]
      rfl

end GuidedMigration.Placeholder
