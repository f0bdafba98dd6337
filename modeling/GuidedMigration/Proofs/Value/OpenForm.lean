/-
This file cuts a text into the places that a guide leaves open and the characters between them. The
three forms of an open place are told by what is written and by the characters on either side of it.
Normalization goes over the text twice, but each form has its own outcome, so that the result is
known from one cut: what a form becomes is a placeholder, unless the name in it begins with `YOUR_`;
then the second pass finds that word inside the placeholder and makes another one of it.
-/
import GuidedMigration.Value.Placeholder
import GuidedMigration.Proofs.Text.Rows
import GuidedMigration.Proofs.Text.Scan

namespace GuidedMigration.Placeholder

open Text

variable {before other : Option Char} {char : Char} {name phrase text rest : Text} {length : Nat}

/-! ### Names -/

theorem isWord_of_isNameChar (inName : isNameChar char = true) : isWord char = true := by
  rw [isNameChar, Bool.or_eq_true, decide_eq_true_eq] at inName
  rcases inName with alnum | rfl
  · rw [isWord, if_pos (toNat_of_isAsciiAlnum alnum), alnum, Bool.true_or]
  · rfl

theorem isNameChar_of_isYourChar (capital : isYourChar char = true) : isNameChar char = true := by
  rw [isYourChar, Bool.or_eq_true, Bool.or_eq_true, decide_eq_true_eq] at capital
  rcases capital with (upper | digit) | rfl
  · rw [isNameChar, isAsciiAlnum, isAsciiLetter, upper]
    rfl
  · rw [isNameChar, isAsciiAlnum, digit, Bool.or_true]
    rfl
  · rfl

theorem isWord_of_isYourChar (capital : isYourChar char = true) : isWord char = true :=
  isWord_of_isNameChar (isNameChar_of_isYourChar capital)

theorem ofName_injective {other : Text} (same : ofName name = ofName other) : name = other :=
  List.append_cancel_right (List.cons.inj (List.cons.inj same).2).2

/-- Whether a text can be the name of a placeholder. -/
def isName (name : Text) : Bool := name.head?.any isNameStart && name.all isNameChar

/-- Whether a text can stand in angle brackets. -/
def isPhrase (phrase : Text) : Bool := phrase.head?.any isAsciiLetter && phrase.all isAngleChar

/-- Whether a text can stand behind `YOUR_`. -/
def isYourName (name : Text) : Bool := !name.isEmpty && name.all isYourChar

/-- The beginning of the words that stand for a name. -/
def yourMark : Text := ['Y', 'O', 'U', 'R', '_']

/-! ### Recognising -/

theorem startsWith_singleton {mark : Char} :
    startsWith [mark] text = true ↔ ∃ rest, text = mark :: rest := by
  cases text with
  | nil =>
    constructor
    · intro starts
      cases starts
    · rintro ⟨rest, same⟩
      cases same
  | cons char text =>
    rw [startsWith, dropPrefix?]
    by_cases same : mark = char
    · rw [if_pos same, same, dropPrefix?]
      exact ⟨fun _ => ⟨text, rfl⟩, fun _ => rfl⟩
    · rw [if_neg same]
      constructor
      · intro starts
        cases starts
      · rintro ⟨rest, cut⟩
        exact absurd (List.cons.inj cut).1.symm same

/-- A name or phrase between marks is recognised by the run of its characters. -/
theorem run_eq_some {kind first : Char → Bool} {mark : Char} {extra : Nat}
    (outside : kind mark = false) :
    (if (text.takeWhile kind).head?.any first &&
        startsWith [mark] (text.drop (text.takeWhile kind).length) then
      some (text.takeWhile kind, (text.takeWhile kind).length + extra) else none) =
        some (name, length) ↔
      (name.head?.any first && name.all kind) = true ∧ length = name.length + extra ∧
        ∃ rest, text = name ++ mark :: rest := by
  constructor
  · intro found
    obtain ⟨rest, whole, dropped, -⟩ := exists_takeWhile kind text
    split at found
    · rename_i fits
      obtain ⟨rfl, rfl⟩ := Prod.mk.inj (Option.some.inj found)
      rw [Bool.and_eq_true, dropped, startsWith_singleton] at fits
      obtain ⟨starts, behind, rfl⟩ := fits
      exact ⟨by rw [starts, List.all_takeWhile]; rfl, rfl, behind, whole⟩
    · cases found
  · rintro ⟨fits, rfl, rest, rfl⟩
    rw [Bool.and_eq_true] at fits
    have stops : (mark :: rest).head?.any kind = false := outside
    rw [takeWhile_append_of_head fits.2 stops, List.drop_left, fits.1,
      startsWith_singleton.mpr ⟨rest, rfl⟩]
    rfl

theorem token_eq_some : token before text = some (name, length) ↔
    isName name = true ∧ length = (ofName name).length ∧ ∃ rest, text = ofName name ++ rest := by
  have written (rest : Text) : ofName name ++ rest = '$' :: '\x7b' :: (name ++ '\x7d' :: rest) := by
    simp [ofName]
  have size : (ofName name).length = name.length + 3 := by simp [ofName]
  rw [token.eq_def]
  split
  · rename_i more
    rw [run_eq_some (by decide), size, isName]
    simp only [written, List.cons.injEq, true_and]
  · rename_i _ others
    refine ⟨fun found => (by cases found), fun ⟨_, _, rest, cut⟩ => ?_⟩
    exact absurd (cut.trans (written rest)) (others _)

theorem angleToken_eq_some : angleToken before text = some (phrase, length) ↔
    isPhrase phrase = true ∧ length = ('<' :: phrase ++ ['>']).length ∧
      ∃ rest, text = '<' :: phrase ++ ['>'] ++ rest := by
  have written (rest : Text) :
      '<' :: phrase ++ ['>'] ++ rest = '<' :: (phrase ++ '>' :: rest) := by simp
  have size : ('<' :: phrase ++ ['>']).length = phrase.length + 2 := by simp
  rw [angleToken.eq_def]
  split
  · rename_i more
    rw [run_eq_some (by decide), size, isPhrase]
    simp only [written, List.cons.injEq, true_and]
  · rename_i _ others
    refine ⟨fun found => (by cases found), fun ⟨_, _, rest, cut⟩ => ?_⟩
    exact absurd (cut.trans (written rest)) (others _)

theorem token_of_ne (other : char ≠ '$') : token before (char :: text) = none := by
  refine Option.eq_none_iff_forall_ne_some.mpr fun ⟨name, length⟩ found => other ?_
  obtain ⟨-, -, behind, cut⟩ := token_eq_some.mp found
  exact (List.cons.inj cut).1

theorem angleToken_of_ne (other : char ≠ '<') : angleToken before (char :: text) = none := by
  refine Option.eq_none_iff_forall_ne_some.mpr fun ⟨phrase, length⟩ found => other ?_
  obtain ⟨-, -, behind, cut⟩ := angleToken_eq_some.mp found
  exact (List.cons.inj cut).1

/-- A word is recognised that consists of `YOUR_` and a name. -/
theorem yourToken_eq_some : yourToken before text = some (name, length) ↔
    before.any isWord = false ∧ isYourName name = true ∧ length = (yourMark ++ name).length ∧
      text.takeWhile isWord = yourMark ++ name := by
  have size : (yourMark ++ name).length = name.length + 5 := by simp [yourMark]
  have inWord (capital : name.all isYourChar = true) : (yourMark ++ name).all isWord = true := by
    rw [List.all_append, List.all_eq_true.mpr fun char member =>
      isWord_of_isYourChar (List.all_eq_true.mp capital char member)]
    decide
  rw [yourToken, size, isYourName, Bool.and_eq_true, Bool.not_eq_true']
  constructor
  · intro found
    split at found
    · cases found
    · rename_i outside
      split at found
      · rename_i behind cut
        obtain ⟨rest, whole, dropped, -⟩ := exists_takeWhile isYourChar behind
        have all : (behind.takeWhile isYourChar).all isYourChar = true := List.all_takeWhile
        dsimp only at found
        rw [dropped] at found
        split at found
        · cases found
        · rename_i fits
          obtain ⟨rfl, rfl⟩ := Prod.mk.inj (Option.some.inj found)
          rw [Bool.not_eq_true, Bool.or_eq_false_iff] at fits
          refine ⟨Bool.eq_false_iff.mpr outside, ⟨fits.1, all⟩, rfl, ?_⟩
          rw [show text = yourMark ++ behind from dropPrefix?_eq_some cut]
          conv => lhs; rw [whole, ← List.append_assoc]
          exact takeWhile_append_of_head (inWord all) fits.2
      · cases found
  · rintro ⟨outside, ⟨written, capital⟩, rfl, word⟩
    obtain ⟨rest, whole, -, stops⟩ := exists_takeWhile isWord text
    have noCapital : rest.head?.any isYourChar = false := by
      cases rest with
      | nil => rfl
      | cons char rest =>
        exact Bool.eq_false_iff.mpr fun capital =>
          Bool.false_ne_true (stops.symm.trans (isWord_of_isYourChar capital))
    rw [word, List.append_assoc] at whole
    have found : dropPrefix? ['Y', 'O', 'U', 'R', '_'] text = some (name ++ rest) := by
      rw [whole]
      exact dropPrefix?_append yourMark (name ++ rest)
    rw [if_neg (by simp [outside]), found]
    dsimp only
    rw [takeWhile_append_of_head capital noCapital, List.drop_left, stops, written]
    rfl

/-! ### The names of a text -/

theorem isBare_token_of_all (others : '$' ∉ text) (before : Option Char) (rest : Text) :
    IsBare token before text rest := by
  refine isBare_of_all (· = '$') (fun before char rest found => ?_) ?_ before rest
  · refine decide_eq_true (Decidable.byContradiction fun other => ?_)
    rw [token_of_ne other] at found
    cases found
  · rw [List.all_eq_true]
    intro char member
    have other : char ≠ '$' := fun same => others (same ▸ member)
    simp [other]

theorem token_of_not_isName (all : name.all isNameChar = true) (unnamed : ¬isName name = true)
    (before : Option Char) (rest : Text) : token before (ofName name ++ rest) = none := by
  refine Option.eq_none_iff_forall_ne_some.mpr fun ⟨other, length⟩ found => unnamed ?_
  obtain ⟨named, -, behind, cut⟩ := token_eq_some.mp found
  have run := congrArg (fun text => (text.drop 2).takeWhile isNameChar) cut
  have otherAll := (Bool.and_eq_true _ _ ▸ named).2
  simp only [ofName, List.cons_append, List.append_assoc, List.drop_succ_cons,
    List.drop_zero] at run
  rw [takeWhile_append_of_head all rfl, takeWhile_append_of_head otherAll rfl] at run
  rwa [run]

/-- What is written like a placeholder is found if its name is that of one, and only then. -/
theorem scan_ofName (all : name.all isNameChar = true) :
    scan token (ofName name) =
      if isName name then [.found name] else (ofName name).map .plain := by
  split
  · rename_i named
    have found : token none (ofName name ++ []) = some (name, (ofName name).length) :=
      token_eq_some.mpr ⟨named, rfl, [], rfl⟩
    have written : ofName name ≠ [] := List.cons_ne_nil _ _
    have pieces := scanFrom_found written found
    rwa [List.append_nil, scanFrom] at pieces
  · rename_i unnamed
    have clean : '$' ∉ '\x7b' :: name ++ ['\x7d'] := by
      have inName : '$' ∉ name := not_mem_of_all all (by decide)
      simp [inName]
    exact scan_of_isBare (isBare_cons.mpr
      ⟨token_of_not_isName all unnamed none [], isBare_token_of_all clean (some '$') []⟩)

theorem namesInText_ofName (all : name.all isNameChar = true) :
    namesInText (ofName name) = if isName name then [name] else [] := by
  rw [namesInText, findAll_eq, scan_ofName all]
  split
  · rfl
  · exact filterMap_found?_plain _

theorem fillText_ofName (values : Values) (all : name.all isNameChar = true) :
    fillText values (ofName name) =
      if isName name then (values.get? name).getD (ofName name) else ofName name := by
  rw [fillText, replaceFound, scan_ofName all]
  split
  · exact List.append_nil _
  · rw [List.flatMap_map]
    exact List.flatMap_singleton' _

/-! ### Forms -/

/-- An open place of a text: a placeholder proper, a phrase in angle brackets, or a name behind
`YOUR_`. -/
inductive Form where
  | proper (name : Text)
  | angle (phrase : Text)
  | your (name : Text)
  deriving DecidableEq

/-- Recognises an open place in any of the three forms. -/
def form : Recogniser Form := fun before text =>
  ((token before text).map fun (name, length) => (.proper name, length)).or
    (((angleToken before text).map fun (phrase, length) => (.angle phrase, length)).or
      ((yourToken before text).map fun (name, length) => (.your name, length)))

namespace Form

/-- A form as it is written. -/
def written : Form → Text
  | proper name => ofName name
  | angle phrase => '<' :: phrase ++ ['>']
  | your name => yourMark ++ name

/-- Whether a form is written correctly and stands between fitting characters. -/
def fits (before after : Option Char) : Form → Bool
  | proper name => isName name
  | angle phrase => isPhrase phrase
  | your name => isYourName name && !before.any isWord && !after.any isWord

end Form

theorem written_ne_nil (found : Form) : found.written ≠ [] := by
  cases found <;> exact List.cons_ne_nil _ _

theorem lastChar_ofName (before : Option Char) (name : Text) :
    lastChar before (ofName name) = some '\x7d' := by
  rw [ofName, lastChar_append]
  rfl

theorem lastChar_angle (before : Option Char) (phrase : Text) :
    lastChar before (Form.angle phrase).written = some '>' := by
  rw [Form.written, lastChar_append]
  rfl

/-- Only a form in angle brackets holds any. -/
theorem not_mem_written {found : Form} {after : Option Char}
    (fits : found.fits before after = true) (other : ∀ phrase, found ≠ .angle phrase) :
    '<' ∉ found.written := by
  cases found with
  | angle phrase => exact absurd rfl (other phrase)
  | proper name =>
    have clean : '<' ∉ name := not_mem_of_all (Bool.and_eq_true _ _ ▸ fits).2 (by decide)
    simp [Form.written, ofName, clean]
  | your name =>
    simp only [Form.fits, isYourName, Bool.and_eq_true] at fits
    have clean : '<' ∉ name := not_mem_of_all fits.1.1.2 (by decide)
    simp [Form.written, yourMark, clean]

/-- What stands behind `YOUR_` and its name ends the word. -/
theorem takeWhile_your : (isYourName name = true ∧ text.takeWhile isWord = yourMark ++ name) ↔
    ∃ rest, text = yourMark ++ name ++ rest ∧ isYourName name = true ∧
      rest.head?.any isWord = false := by
  constructor
  · rintro ⟨fits, word⟩
    obtain ⟨rest, whole, -, stops⟩ := exists_takeWhile isWord text
    exact ⟨rest, by rwa [word] at whole, fits, stops⟩
  · rintro ⟨rest, rfl, fits, stops⟩
    refine ⟨fits, takeWhile_append_of_head ?_ stops⟩
    rw [isYourName, Bool.and_eq_true] at fits
    rw [List.all_append, List.all_eq_true.mpr fun char member =>
      isWord_of_isYourChar (List.all_eq_true.mp fits.2 char member)]
    decide

theorem form_eq_none : form before text = none ↔
    token before text = none ∧ angleToken before text = none ∧ yourToken before text = none := by
  simp [form]

/-- The three forms begin with different characters, so that none hides another one. -/
theorem form_eq_some {found : Form} : form before text = some (found, length) ↔
    length = found.written.length ∧
      ∃ rest, text = found.written ++ rest ∧ found.fits before rest.head? = true := by
  constructor
  · intro recognised
    rw [form, Option.or_eq_some_iff, Option.or_eq_some_iff] at recognised
    rcases recognised with proper | ⟨-, angle | ⟨-, your⟩⟩
    · obtain ⟨⟨name, size⟩, token', same⟩ := Option.map_eq_some_iff.mp proper
      obtain ⟨rfl, rfl⟩ := Prod.mk.inj same
      obtain ⟨fits, rfl, rest, cut⟩ := token_eq_some.mp token'
      exact ⟨rfl, rest, cut, fits⟩
    · obtain ⟨⟨phrase, size⟩, angle', same⟩ := Option.map_eq_some_iff.mp angle
      obtain ⟨rfl, rfl⟩ := Prod.mk.inj same
      obtain ⟨fits, rfl, rest, cut⟩ := angleToken_eq_some.mp angle'
      exact ⟨rfl, rest, cut, fits⟩
    · obtain ⟨⟨name, size⟩, your', same⟩ := Option.map_eq_some_iff.mp your
      obtain ⟨rfl, rfl⟩ := Prod.mk.inj same
      obtain ⟨outside, fits, rfl, word⟩ := yourToken_eq_some.mp your'
      obtain ⟨rest, cut, -, stops⟩ := takeWhile_your.mp ⟨fits, word⟩
      exact ⟨rfl, rest, cut, by simp [Form.fits, fits, outside, stops]⟩
  · rintro ⟨rfl, rest, rfl, fits⟩
    cases found with
    | proper name =>
      have here : token before (Form.written (.proper name) ++ rest) = _ :=
        token_eq_some.mpr ⟨fits, rfl, rest, rfl⟩
      rw [form, here]
      rfl
    | angle phrase =>
      have earlier : token before (Form.written (.angle phrase) ++ rest) = none :=
        token_of_ne (by decide)
      have here : angleToken before (Form.written (.angle phrase) ++ rest) = _ :=
        angleToken_eq_some.mpr ⟨fits, rfl, rest, rfl⟩
      rw [form, earlier, here]
      rfl
    | your name =>
      simp only [Form.fits, Bool.and_eq_true, Bool.not_eq_true'] at fits
      obtain ⟨named, word⟩ := takeWhile_your.mpr ⟨rest, rfl, fits.1.1, fits.2⟩
      have first : token before (Form.written (.your name) ++ rest) = none :=
        token_of_ne (by decide)
      have second : angleToken before (Form.written (.your name) ++ rest) = none :=
        angleToken_of_ne (by decide)
      have here : yourToken before (Form.written (.your name) ++ rest) = _ :=
        yourToken_eq_some.mpr ⟨fits.1.2, named, rfl, word⟩
      rw [form, first, second, here]
      rfl

/-! ### The cut of a text -/

theorem scanFrom_written {found : Form} (fits : found.fits before rest.head? = true) :
    scanFrom form 0 before (found.written ++ rest) =
      .found found :: scanFrom form 0 (lastChar before found.written) rest :=
  scanFrom_found (written_ne_nil found) (form_eq_some.mpr ⟨rfl, rest, rfl, fits⟩)

/-- A text is empty, or begins with a character at which no form stands, or with a form. -/
theorem formInduction {motive : Option Char → Text → Prop} (nil : ∀ before, motive before [])
    (plain : ∀ before char text, form before (char :: text) = none → motive (some char) text →
      motive before (char :: text))
    (found : ∀ before (found : Form) rest, found.fits before rest.head? = true →
      motive (lastChar before found.written) rest → motive before (found.written ++ rest))
    (before : Option Char) (text : Text) : motive before text := by
  match text with
  | [] => exact nil before
  | char :: text =>
    cases here : form before (char :: text) with
    | none => exact plain before char text here (formInduction nil plain found (some char) text)
    | some recognised =>
      obtain ⟨-, rest, cut, fits⟩ := form_eq_some.mp here
      have shorter : rest.length < (char :: text).length := by
        rw [cut, List.length_append]
        exact Nat.lt_add_of_pos_left (List.length_pos_iff.mpr (written_ne_nil _))
      rw [cut]
      exact found before _ rest fits (formInduction nil plain found _ rest)
termination_by text.length
decreasing_by
  · exact Nat.lt_succ_self _
  · exact shorter

/-- The name of a placeholder. -/
def Form.proper? : Form → Option Text
  | .proper name => some name
  | _ => none

/-- The placeholders of a piece and the characters between them. -/
def inPiece : Piece Form → List (Piece Text)
  | .plain char => [.plain char]
  | .found (.proper name) => [.found name]
  | .found found => found.written.map .plain

/-- The placeholders of a text are its forms of the first kind. -/
theorem scanFrom_token (before other : Option Char) (text : Text) :
    scanFrom token 0 other text = (scanFrom form 0 before text).flatMap inPiece := by
  induction before, text using formInduction generalizing other with
  | nil before => rfl
  | plain before char text missing inductionHypothesis =>
    have here : token other (char :: text) = none := (form_eq_none.mp missing).1
    rw [scanFrom_plain missing, scanFrom_plain here, inductionHypothesis (some char)]
    rfl
  | found before found rest fits inductionHypothesis =>
    have later := inductionHypothesis (lastChar other found.written)
    have bare (clean : '$' ∉ found.written) :
        scanFrom token 0 other (found.written ++ rest) =
          found.written.map .plain ++ scanFrom token 0 (lastChar other found.written) rest :=
      scanFrom_append_of_isBare (isBare_token_of_all clean other rest)
    rw [scanFrom_written fits, List.flatMap_cons, ← later]
    cases found with
    | proper name =>
      have here : token other (Form.written (.proper name) ++ rest) = _ :=
        token_eq_some.mpr ⟨fits, rfl, rest, rfl⟩
      exact scanFrom_found (written_ne_nil _) here
    | angle phrase =>
      have clean : '$' ∉ phrase := not_mem_of_all (Bool.and_eq_true _ _ ▸ fits).2 (by decide)
      exact bare (by simp [Form.written, clean])
    | your name =>
      simp only [Form.fits, isYourName, Bool.and_eq_true] at fits
      have clean : '$' ∉ name := not_mem_of_all fits.1.1.2 (by decide)
      exact bare (by simp [Form.written, yourMark, clean])

theorem namesInText_eq (text : Text) :
    namesInText text = (findAll form text).filterMap Form.proper? := by
  rw [namesInText, findAll_eq, findAll_eq, scan, scan, scanFrom_token none none]
  induction scanFrom form 0 none text with
  | nil => rfl
  | cons piece pieces inductionHypothesis =>
    rw [List.flatMap_cons, List.filterMap_append, inductionHypothesis]
    cases piece with
    | plain char => rfl
    | found found =>
      cases found with
      | proper name => rfl
      | angle phrase =>
        rw [inPiece, filterMap_found?_plain]
        · rfl
        · intro _ same
          cases same
      | your name =>
        rw [inPiece, filterMap_found?_plain]
        · rfl
        · intro _ same
          cases same

/-- A text is made up of its pieces. -/
theorem flatMap_written (before : Option Char) (text : Text) :
    (scanFrom form 0 before text).flatMap (Piece.shown Form.written) = text := by
  induction before, text using formInduction with
  | nil before => rfl
  | plain before char text missing inductionHypothesis =>
    rw [scanFrom_plain missing, List.flatMap_cons, inductionHypothesis]
    rfl
  | found before found rest fits inductionHypothesis =>
    rw [scanFrom_written fits, List.flatMap_cons, inductionHypothesis]
    rfl

/-! ### Normalization -/

/-- The name behind `YOUR_` that is all there is of a name. -/
def yourName? (name : Text) : Option Text := (dropPrefix? yourMark name).filter isYourName

namespace Form

/-- The name that a form stands for. -/
def named : Form → Text
  | proper name => name
  | angle phrase => nameOf phrase
  | your name => name

/-- The name that the second pass finds behind `YOUR_` in the placeholder that the first pass leaves
or makes. -/
def inner? : Form → Option Text
  | proper name => yourName? name
  | angle phrase => yourName? (nameOf phrase)
  | your _ => none

/-- The name in the placeholder that is left of a form in the end. -/
def kept (found : Form) : Text := found.inner?.getD found.named

/-- What normalization makes of a form: a placeholder, or one inside what was a placeholder. -/
def normalized (found : Form) : Text :=
  match found.inner? with
  | some inner => ofName (ofName inner)
  | none => ofName found.named

end Form

theorem yourName?_eq_some {inner : Text} :
    yourName? name = some inner ↔ name = yourMark ++ inner ∧ isYourName inner = true := by
  rw [yourName?, Option.filter_eq_some_iff]
  refine and_congr_left fun _ => ⟨dropPrefix?_eq_some, ?_⟩
  rintro rfl
  exact dropPrefix?_append yourMark inner

end GuidedMigration.Placeholder
