/-
This file says when nothing stays open in a text whose placeholders are filled in. A value that is
filled in holds no mark of a form, but it can complete one with the characters beside it: a `$` or a
`<` from which one gets to a placeholder within what could be a form, or an underscore in one word
with a placeholder. Where the normalized text has none of these, no value opens it again.

The file ends with what normalization does to any text and any value.
-/
import GuidedMigration.Proofs.Value.Filled
import GuidedMigration.Proofs.Value.Normalized

namespace GuidedMigration.Placeholder

open Text

variable {before other : Option Char} {char mark : Char} {name part text rest : Text}
  {kind : Char → Bool} {pieces : List (Piece Form)} {touched : Bool} {valueOf : Form → Text}

/-! ### Placeholders apart -/

/-- Whether one gets to a form through characters of a kind alone. -/
def leads (kind : Char → Bool) : List (Piece Form) → Bool
  | [] => false
  | .plain char :: pieces => kind char && leads kind pieces
  | .found _ :: _ => true

/-- The characters that can stand between a `$` and the end of a name. -/
def isBracedChar (char : Char) : Bool := char = '\x7b' || isNameChar char

/-- Whether no form stands so that what it is replaced by could complete another one. A piece is
touched if a form stands in front of it in the same word. -/
def apart : Bool → List (Piece Form) → Bool
  | _, [] => true
  | touched, .plain char :: pieces =>
    !(char = '$' && leads isBracedChar pieces) && !(char = '<' && leads isAngleChar pieces) &&
      !(char = '_' && (touched || leads isWord pieces)) && apart (touched && isWord char) pieces
  | _, .found _ :: pieces => apart true pieces

/-- Whether a text has none of the characters that forms are told by. -/
def isClean (text : Text) : Bool :=
  text.all fun char => char != '$' && char != '\x7b' && char != '\x7d' && char != '<' &&
    char != '>' && char != '_'

/-- The text that pieces make up with forms replaced. -/
def shownWith (valueOf : Form → Text) (pieces : List (Piece Form)) : Text :=
  pieces.flatMap (Piece.shown valueOf)

theorem shownWith_plain (char : Char) (pieces : List (Piece Form)) :
    shownWith valueOf (.plain char :: pieces) = char :: shownWith valueOf pieces := rfl

theorem shownWith_found (found : Form) (pieces : List (Piece Form)) :
    shownWith valueOf (.found found :: pieces) = valueOf found ++ shownWith valueOf pieces := rfl

/-- Characters of a kind that do not lead to a form are followed by another character or the end,
whatever the forms are replaced by. -/
theorem exists_run (stops : leads kind pieces = false) :
    ∃ (run : Text) (others : List (Piece Form)),
      pieces = run.map .plain ++ others ∧ run.all kind = true ∧
        ∀ valueOf, (shownWith valueOf others).head?.any kind = false ∧
          ∀ otherOf, (shownWith valueOf others).head? = (shownWith otherOf others).head? := by
  induction pieces with
  | nil => exact ⟨[], [], rfl, rfl, fun _ => ⟨rfl, fun _ => rfl⟩⟩
  | cons piece pieces inductionHypothesis =>
    cases piece with
    | found found => cases stops
    | plain char =>
      cases fits : kind char with
      | false => exact ⟨[], .plain char :: pieces, rfl, rfl, fun _ => ⟨fits, fun _ => rfl⟩⟩
      | true =>
        rw [leads, fits, Bool.true_and] at stops
        obtain ⟨run, others, rfl, all, ends⟩ := inductionHypothesis stops
        exact ⟨char :: run, others, rfl, by rw [List.all_cons, fits, all]; rfl, ends⟩

theorem shownWith_run (run : Text) (others : List (Piece Form)) :
    shownWith valueOf (run.map .plain ++ others) = run ++ shownWith valueOf others := by
  induction run with
  | nil => rfl
  | cons char run inductionHypothesis => exact congrArg (char :: ·) inductionHypothesis

/-- What a text begins with up to a mark does not depend on forms to which nothing leads. -/
theorem exists_of_shownWith_eq (stops : leads kind pieces = false) (all : part.all kind = true)
    (outside : kind mark = false) (begins : shownWith valueOf pieces = part ++ mark :: rest)
    (otherOf : Form → Text) : ∃ behind, shownWith otherOf pieces = part ++ mark :: behind := by
  obtain ⟨run, others, rfl, runAll, ends⟩ := exists_run stops
  obtain ⟨noMore, sameHead⟩ := ends valueOf
  rw [shownWith_run] at begins
  have sameRun : run = part := by
    rw [← takeWhile_append_of_head runAll noMore, begins]
    exact takeWhile_append_of_head all outside
  subst sameRun
  have first : (shownWith otherOf others).head? = some mark := by
    rw [← sameHead, List.append_cancel_left begins]
    rfl
  obtain ⟨behind, cut⟩ := List.head?_eq_some_iff.mp first
  exact ⟨behind, by rw [shownWith_run, cut]⟩

theorem takeWhile_shownWith (stops : leads kind pieces = false) (otherOf : Form → Text) :
    (shownWith valueOf pieces).takeWhile kind = (shownWith otherOf pieces).takeWhile kind := by
  obtain ⟨run, others, rfl, runAll, ends⟩ := exists_run stops
  rw [shownWith_run, shownWith_run, takeWhile_append_of_head runAll (ends valueOf).1,
    takeWhile_append_of_head runAll (ends otherOf).1]

/-! ### Words with a filled placeholder -/

theorem not_mem_of_isClean (clean : isClean text = true) :
    '$' ∉ text ∧ '<' ∉ text ∧ '_' ∉ text := by
  refine ⟨?_, ?_, ?_⟩ <;> exact not_mem_of_all clean (by decide)

theorem mem_takeWhile_append (member : mark ∈ (part ++ rest).takeWhile kind) :
    mark ∈ part ∨ mark ∈ rest.takeWhile kind := by
  induction part with
  | nil => exact Or.inr member
  | cons first part inductionHypothesis =>
    rw [List.cons_append, List.takeWhile_cons] at member
    split at member
    · rcases List.mem_cons.mp member with rfl | further
      · exact Or.inl List.mem_cons_self
      · exact (inductionHypothesis further).imp_left (List.mem_cons_of_mem first)
    · cases member

/-- The rest of a word with a form in it holds no underscore, if the forms stand apart. -/
theorem not_mem_word (clean : ∀ found, .found found ∈ pieces → isClean (valueOf found) = true)
    (apart' : apart touched pieces = true) (near : (touched || leads isWord pieces) = true) :
    '_' ∉ (shownWith valueOf pieces).takeWhile isWord := by
  induction pieces generalizing touched with
  | nil => exact List.not_mem_nil
  | cons piece pieces inductionHypothesis =>
    have cleanRest := fun found member => clean found (List.mem_cons_of_mem piece member)
    cases piece with
    | found found =>
      rw [apart] at apart'
      rw [shownWith_found]
      intro member
      rcases mem_takeWhile_append member with inValue | further
      · exact (not_mem_of_isClean (clean found List.mem_cons_self)).2.2 inValue
      · exact inductionHypothesis cleanRest apart' rfl further
    | plain char =>
      rw [shownWith_plain, List.takeWhile_cons]
      split
      · rename_i word
        simp only [apart, Bool.and_eq_true, Bool.not_eq_true', Bool.and_eq_false_iff, word,
          Bool.and_true] at apart'
        simp only [leads, word, Bool.true_and] at near
        have noMark : char ≠ '_' := by
          rintro rfl
          simpa [near] using apart'.1.2
        rw [List.mem_cons, not_or]
        exact ⟨Ne.symm noMark, inductionHypothesis cleanRest apart'.2 near⟩
      · exact List.not_mem_nil

/-! ### Filled texts -/

/-- No placeholder begins at a `$` from which one does not get to a form. -/
theorem token_shownWith (missing : token before (char :: shownWith Form.written pieces) = none)
    (stops : ¬char = '$' ∨ leads isBracedChar pieces = false) (other : Option Char) :
    token other (char :: shownWith valueOf pieces) = none := by
  refine Option.eq_none_iff_forall_ne_some.mpr fun recognised found => ?_
  obtain ⟨name, length⟩ := recognised
  obtain ⟨named, -, rest, cut⟩ := token_eq_some.mp found
  obtain ⟨rfl, more⟩ := List.cons.inj cut
  have inName : name.all isNameChar = true := (Bool.and_eq_true _ _ ▸ named).2
  have inName : name.all isBracedChar = true := List.all_eq_true.mpr fun char member => by
    rw [isBracedChar, List.all_eq_true.mp inName char member, Bool.or_true]
  have braced : ('\x7b' :: name).all isBracedChar = true := by
    rw [List.all_cons, inName]
    rfl
  have begins : shownWith valueOf pieces = '\x7b' :: name ++ '\x7d' :: rest := by
    rw [more]
    simp
  obtain ⟨behind, here⟩ := exists_of_shownWith_eq (stops.resolve_left (· rfl)) braced
    (by decide) begins Form.written
  have same : '$' :: shownWith Form.written pieces = ofName name ++ behind := by
    rw [here]
    simp [ofName]
  cases missing.symm.trans (token_eq_some.mpr ⟨named, rfl, behind, same⟩)

/-- Nothing in angle brackets begins at a `<` from which one does not get to a form. -/
theorem angleToken_shownWith
    (missing : angleToken before (char :: shownWith Form.written pieces) = none)
    (stops : ¬char = '<' ∨ leads isAngleChar pieces = false) (other : Option Char) :
    angleToken other (char :: shownWith valueOf pieces) = none := by
  refine Option.eq_none_iff_forall_ne_some.mpr fun recognised found => ?_
  obtain ⟨phrase, length⟩ := recognised
  obtain ⟨fits, -, rest, cut⟩ := angleToken_eq_some.mp found
  obtain ⟨rfl, more⟩ := List.cons.inj cut
  have begins : shownWith valueOf pieces = phrase ++ '>' :: rest := by
    rw [more]
    simp
  obtain ⟨behind, here⟩ := exists_of_shownWith_eq (stops.resolve_left (· rfl))
    (Bool.and_eq_true _ _ ▸ fits).2 (by decide) begins Form.written
  have same : '<' :: shownWith Form.written pieces = '<' :: phrase ++ ['>'] ++ behind := by
    rw [here]
    simp
  cases missing.symm.trans (angleToken_eq_some.mpr ⟨fits, rfl, behind, same⟩)

/-- No word with `YOUR_` begins at a character of a word in which the forms stand apart. -/
theorem yourToken_shownWith
    (missing : yourToken before (char :: shownWith Form.written pieces) = none)
    (clean : ∀ found, .found found ∈ pieces → isClean (valueOf found) = true)
    (further : apart (touched && isWord char) pieces = true)
    (edge : touched = true ∨ other = before) :
    yourToken other (char :: shownWith valueOf pieces) = none := by
  cases word : isWord char with
  | false => exact yourToken_of_not_isWord word
  | true =>
    rw [word, Bool.and_true] at further
    cases near : touched || leads isWord pieces with
    | true =>
      -- The word goes on without an underscore, which `YOUR_` has.
      refine Option.eq_none_iff_forall_ne_some.mpr fun recognised found => ?_
      obtain ⟨name, length⟩ := recognised
      obtain ⟨-, -, -, whole⟩ := yourToken_eq_some.mp found
      rw [List.takeWhile_cons_of_pos word] at whole
      refine not_mem_word clean further near ?_
      rw [(List.cons.inj whole).2]
      exact List.mem_append_left _ (by decide)
    | false =>
      rw [Bool.or_eq_false_iff] at near
      obtain rfl := edge.resolve_left (by simp [near.1])
      rw [← missing]
      refine yourToken_of_takeWhile ?_ rfl
      rw [List.takeWhile_cons_of_pos word, List.takeWhile_cons_of_pos word,
        takeWhile_shownWith near.2 Form.written]

/-- Behind a character of the text, no form begins in the filled text that did not in the text. -/
theorem form_supplied (missing : form before (char :: text) = none)
    (clean : ∀ found, .found found ∈ scanFrom form 0 (some char) text →
      isClean (valueOf found) = true)
    (apart' : apart touched (.plain char :: scanFrom form 0 (some char) text) = true)
    (edge : touched = true ∨ other = before) :
    form other (char :: shownWith valueOf (scanFrom form 0 (some char) text)) = none := by
  have whole : shownWith Form.written (scanFrom form 0 (some char) text) = text :=
    flatMap_written (some char) text
  rw [← whole] at missing
  obtain ⟨noToken, noAngle, noYour⟩ := form_eq_none.mp missing
  simp only [apart, Bool.and_eq_true, Bool.not_eq_true', Bool.and_eq_false_iff,
    decide_eq_false_iff_not] at apart'
  obtain ⟨⟨⟨dollar, bracket⟩, -⟩, further⟩ := apart'
  exact form_eq_none.mpr ⟨token_shownWith noToken dollar other,
    angleToken_shownWith noAngle bracket other, yourToken_shownWith noYour clean further edge⟩

/-- No form begins in a clean value, whatever stands behind it. -/
theorem isBare_value {word : Text} (clean : isClean word = true)
    (noMark : '_' ∉ rest.takeWhile isWord) (bare : ∀ other, IsBare form other rest [])
    (other : Option Char) : IsBare form other (word ++ rest) [] := by
  induction word generalizing other with
  | nil => exact bare other
  | cons char word inductionHypothesis =>
    obtain ⟨noDollar, noBracket, noUnderscore⟩ := not_mem_of_isClean clean
    rw [List.mem_cons, not_or] at noDollar noBracket
    rw [isClean, List.all_cons, Bool.and_eq_true] at clean
    rw [List.cons_append, isBare_cons, List.append_nil]
    refine ⟨form_eq_none.mpr ⟨token_of_ne (Ne.symm noDollar.1),
      angleToken_of_ne (Ne.symm noBracket.1), ?_⟩, inductionHypothesis clean.2 (some char)⟩
    refine Option.eq_none_iff_forall_ne_some.mpr fun ⟨name, length⟩ found => ?_
    obtain ⟨-, -, -, whole⟩ := yourToken_eq_some.mp found
    have marked : '_' ∈ (char :: word ++ rest).takeWhile isWord := by
      rw [List.cons_append, whole]
      exact List.mem_append_left _ (by decide)
    exact (mem_takeWhile_append marked).elim noUnderscore noMark

/-- In a text whose placeholders stand apart, no form is left when they are filled in. -/
theorem isBare_supplied
    (onlyProper : ∀ found, .found found ∈ scanFrom form 0 before text →
      ∃ name, found = .proper name)
    (clean : ∀ found, .found found ∈ scanFrom form 0 before text → isClean (valueOf found) = true)
    (apart' : apart touched (scanFrom form 0 before text) = true)
    (edge : touched = true ∨ other = before) :
    IsBare form other (shownWith valueOf (scanFrom form 0 before text)) [] := by
  induction before, text using formInduction generalizing other touched with
  | nil before => exact isBare_nil
  | plain before char text missing inductionHypothesis =>
    rw [scanFrom_plain missing] at onlyProper clean apart' ⊢
    have cleanRest := fun found member =>
      clean found (List.mem_cons_of_mem (Piece.plain char) member)
    have further : apart (touched && isWord char) (scanFrom form 0 (some char) text) = true := by
      rw [apart, Bool.and_eq_true] at apart'
      exact apart'.2
    rw [shownWith_plain, isBare_cons, List.append_nil]
    exact ⟨form_supplied missing cleanRest apart' edge,
      inductionHypothesis (fun found member => onlyProper found (List.mem_cons_of_mem _ member))
        cleanRest further (Or.inr rfl)⟩
  | found before found rest fits inductionHypothesis =>
    rw [scanFrom_written fits] at onlyProper clean apart' ⊢
    have cleanRest := fun other member =>
      clean other (List.mem_cons_of_mem (Piece.found found) member)
    rw [shownWith_found]
    refine isBare_value (clean found List.mem_cons_self) (not_mem_word cleanRest apart' rfl)
      (fun other => ?_) other
    exact inductionHypothesis (fun found member => onlyProper found (List.mem_cons_of_mem _ member))
      cleanRest apart' (Or.inl rfl)

theorem isOpen_of_isBare (bare : IsBare form none text []) : isOpen text = false := by
  have nothing {Found : Type} {recognise : Recogniser Found}
      (bare : IsBare recognise none text []) : findFirst? recognise text = none := by
    rw [findFirst?, findAll_eq, scan_of_isBare bare, filterMap_found?_plain]
    rfl
  have parts : ∀ {before text}, IsBare form before text [] → IsBare token before text [] ∧
      IsBare angleToken before text [] ∧ IsBare yourToken before text [] := by
    intro before text bare
    induction text generalizing before with
    | nil => exact ⟨isBare_nil, isBare_nil, isBare_nil⟩
    | cons char text inductionHypothesis =>
      obtain ⟨here, further⟩ := isBare_cons.mp bare
      obtain ⟨noToken, noAngle, noYour⟩ := form_eq_none.mp here
      obtain ⟨tokens, angles, yours⟩ := inductionHypothesis further
      exact ⟨isBare_cons.mpr ⟨noToken, tokens⟩, isBare_cons.mpr ⟨noAngle, angles⟩,
        isBare_cons.mpr ⟨noYour, yours⟩⟩
  obtain ⟨tokens, angles, yours⟩ := parts bare
  rw [isOpen, nothing tokens, nothing angles, nothing yours]
  rfl

/-- What a form of a normalized text is filled with. -/
def filledWith (values : Values) (found : Form) : Text :=
  match found with
  | .proper name => (values.get? name).getD (ofName name)
  | found => found.written

theorem fillText_eq (values : Values) (text : Text) :
    fillText values text = shownWith (filledWith values) (scan form text) := by
  rw [fillText, replaceFound, scan, scanFrom_token none none, List.flatMap_assoc, shownWith]
  refine congrArg (fun change => List.flatMap change _) (funext fun piece => ?_)
  cases piece with
  | plain char => rfl
  | found found =>
    cases found with
    | proper name => exact List.append_nil _
    | angle phrase => exact (List.flatMap_map ..).trans (List.flatMap_singleton' _)
    | your name => exact (List.flatMap_map ..).trans (List.flatMap_singleton' _)

/-- The forms of a normalized text are placeholders. -/
theorem proper_of_mem_normalize {found : Form} (member : found ∈ findAll form (normalize text)) :
    ∃ name, found = .proper name ∧ name ∈ namesInText (normalize text) := by
  have proper : ∃ name, found = .proper name := by
    have inCut {name : Text} (member : .found found ∈ cutOf name) :
        ∃ name, found = .proper name := by
      rw [cutOf] at member
      split at member
      · exact ⟨name, Piece.found.inj (List.mem_singleton.mp member)⟩
      · obtain ⟨_, -, same⟩ := List.mem_map.mp member
        cases same
    rw [mem_findAll, scan_normalize, List.mem_flatMap] at member
    obtain ⟨piece, -, member⟩ := member
    cases piece with
    | plain char => cases List.mem_singleton.mp member
    | found found =>
      rw [rescanned] at member
      split at member
      · simp only [List.cons_append, List.mem_cons, List.mem_append, reduceCtorEq, false_or,
          List.not_mem_nil, or_false] at member
        exact inCut member
      · exact inCut member
  obtain ⟨name, rfl⟩ := proper
  exact ⟨name, rfl, namesInText_eq _ ▸ List.mem_filterMap.mpr ⟨_, member, rfl⟩⟩

theorem mem_of_get? {values : Values} {word : Text} (held : values.get? name = some word) :
    (name, word) ∈ values := by
  induction values with
  | nil => cases held
  | cons entry values inductionHypothesis =>
    obtain ⟨first, value⟩ := entry
    rw [Values.get?_cons] at held
    split at held
    · rename_i same
      exact List.mem_cons.mpr (Or.inl (by rw [same, Option.some.inj held]))
    · exact List.mem_cons_of_mem _ (inductionHypothesis held)

/-- Filling in clean values for all placeholders of a normalized text in which they stand apart
leaves nothing open. -/
theorem isOpen_fillText {values : Values}
    (apart' : apart false (scan form (normalize text)) = true)
    (covered : ∀ name ∈ namesInText (normalize text), (values.get? name).isSome = true)
    (clean : ∀ entry ∈ values, isClean entry.2 = true) :
    isOpen (fillText values (normalize text)) = false := by
  rw [fillText_eq]
  refine isOpen_of_isBare (isBare_supplied (fun found member => ?_) (fun found member => ?_) apart'
    (Or.inr rfl))
  · obtain ⟨name, same, -⟩ := proper_of_mem_normalize (mem_findAll.mpr member)
    exact ⟨name, same⟩
  · obtain ⟨name, rfl, named⟩ := proper_of_mem_normalize (mem_findAll.mpr member)
    obtain ⟨word, held⟩ := Option.isSome_iff_exists.mp (covered name named)
    rw [filledWith, held, Option.getD_some]
    exact clean (name, word) (mem_of_get? held)

end GuidedMigration.Placeholder

namespace GuidedMigration.Value

mutual

theorem texts_mapTexts (change : Text → Text) (value : Value) :
    (value.mapTexts change).texts = value.texts.map change := by
  match value with
  | .scalar atom => cases atom <;> rfl
  | .list items => exact textsList_mapTextsList change items
  | .set _ => rfl
  | .map entries => exact textsEntries_mapTextsEntries change entries

theorem textsList_mapTextsList (change : Text → Text) (items : List Value) :
    textsList (mapTextsList change items) = (textsList items).map change := by
  match items with
  | [] => rfl
  | item :: rest =>
    rw [mapTextsList, textsList, textsList, List.map_append, texts_mapTexts change item,
      textsList_mapTextsList change rest]

theorem textsEntries_mapTextsEntries (change : Text → Text) (entries : List (Scalar × Value)) :
    textsEntries (mapTextsEntries change entries) = (textsEntries entries).map change := by
  match entries with
  | [] => rfl
  | (_, value) :: rest =>
    rw [mapTextsEntries, textsEntries, textsEntries, List.map_append, texts_mapTexts change value,
      textsEntries_mapTextsEntries change rest]

end

end GuidedMigration.Value

namespace GuidedMigration.Placeholder

open Text

/-- A form becomes a placeholder that is found if its name does not begin with `YOUR_` and can be
that of a placeholder, and only then. -/
theorem normalized_found_iff (found : Form) :
    (∃ name, found.normalized = ofName name ∧ isName name = true) ↔
      found.inner? = none ∧ isName found.named = true := by
  rw [Form.normalized]
  cases behind : found.inner? with
  | none =>
    constructor
    · rintro ⟨name, same, named⟩
      rw [ofName_injective same]
      exact ⟨rfl, named⟩
    · exact fun named => ⟨found.named, rfl, named.2⟩
  | some inner =>
    constructor
    · rintro ⟨name, same, named⟩
      rw [← ofName_injective same] at named
      cases named
    · intro never
      cases never.1

/-- What normalization does. For every text, cut into its forms and the characters between them:
each form is replaced on its own; a placeholder stays as it is unless its name is `YOUR_` and a
name; a second normalization changes nothing unless a placeholder that is left by then has such a
name; a form becomes one placeholder that is found unless its name has such a name or begins with a
digit; and the placeholders that are left are all there are. For every value: if in its normalized
texts the placeholders stand apart, filling in clean values for all of them leaves nothing open. -/
theorem normalize_spec (text : Text) (tree : Value) (values : Values) :
    (text = (scan form text).flatMap (Piece.shown Form.written) ∧
      normalize text = (scan form text).flatMap (Piece.shown Form.normalized) ∧
      namesInText text = (findAll form text).filterMap Form.proper? ∧
      (∀ name, .proper name ∈ findAll form text →
        ((Form.proper name).normalized = ofName name ↔ yourName? name = none)) ∧
      (normalize (normalize text) = normalize text ↔
        ∀ found ∈ findAll form text, yourName? found.kept = none) ∧
      (∀ found ∈ findAll form text,
        (∃ name, found.normalized = ofName name ∧ isName name = true) ↔
          found.inner? = none ∧ isName found.named = true) ∧
      namesInText (normalize text) = ((findAll form text).map Form.kept).filter isName) ∧
    ((∀ leaf ∈ tree.texts, apart false (scan form (normalize leaf)) = true) →
      (∀ name ∈ tree.normalize.placeholders, (values.get? name).isSome = true) →
      (∀ entry ∈ values, isClean entry.2 = true) →
        ∀ leaf ∈ (tree.normalize.fill values).texts, isOpen leaf = false) := by
  refine ⟨⟨(flatMap_written none text).symm, normalize_eq text, namesInText_eq text,
    fun name _ => ⟨fun kept => ?_, normalized_of_yourName?⟩, normalize_normalize_iff text,
    fun found _ => normalized_found_iff found, namesInText_normalize text⟩, ?closed⟩
  · refine Option.eq_none_iff_forall_ne_some.mpr fun inner behind => ?_
    exact absurd (congrArg List.length kept) (Nat.ne_of_lt (length_normalized behind))
  case closed =>
    intro standApart covered clean leaf member
    rw [Value.fill, Value.normalize, Value.texts_mapTexts, Value.texts_mapTexts,
      List.map_map, List.mem_map] at member
    obtain ⟨source, member, rfl⟩ := member
    refine isOpen_fillText (standApart source member) (fun name named => covered name ?_) clean
    rw [Value.placeholders, List.mem_eraseDups, Value.normalize, Value.texts_mapTexts,
      List.mem_flatMap]
    exact ⟨normalize source, List.mem_map_of_mem member, named⟩

/-- An address with a host in angle brackets and an organization behind `YOUR_`. -/
theorem normalize_spec_of_address :
    let tree : Value :=
      .list [.text "https://<Git host>/YOUR_ORG".toList, .text "$\x7bTAG\x7d".toList]
    let values : Values := [("GIT_HOST".toList, "git.example".toList), ("ORG".toList, "o".toList),
      ("TAG".toList, "t".toList)]
    (tree.normalize.fill values).texts =
        ["https://git.example/o".toList, "t".toList] ∧
      ∀ text ∈ (tree.normalize.fill values).texts, isOpen text = false :=
  ⟨by decide, (normalize_spec [] _ _).2 (by decide) (by decide) (by decide)⟩

/-- Each way in which normalization is neither stable nor complete: a placeholder that is changed, a
word that is changed twice, a word that becomes no placeholder, and a text that a clean value opens
again. -/
theorem normalize_leaves_open :
    normalize "$\x7bYOUR_X\x7d".toList = "$\x7b$\x7bX\x7d\x7d".toList ∧
      normalize (normalize "YOUR_YOUR_X".toList) ≠ normalize "YOUR_YOUR_X".toList ∧
      namesInText (normalize "YOUR_2FA".toList) = [] ∧
      isClean "x".toList = true ∧
      isOpen (fillText [("A".toList, "x".toList)] (normalize "<$\x7bA\x7d>".toList)) = true := by
  decide

end GuidedMigration.Placeholder
