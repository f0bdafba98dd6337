/-
This file says what a scan does to a text that is given in parts. A character at which nothing is
recognised is kept, a part that is recognised is taken as a whole, and a text in which nothing is
recognised anywhere is kept character by character.
-/
import GuidedMigration.Proofs.Code.PatternMatch

namespace GuidedMigration.Text

variable {Found : Type} {recognise : Recogniser Found} {before : Option Char} {char : Char}
  {part text rest : Text} {occurrence : Found}

/-! ### Runs -/

/-- A run of characters of a kind ends where another kind of character stands. -/
theorem takeWhile_append_of_head {kind : Char → Bool} {run : Text} (all : run.all kind = true)
    (stops : rest.head?.any kind = false) : (run ++ rest).takeWhile kind = run := by
  rw [List.takeWhile_append_of_pos (List.all_eq_true.mp all)]
  cases rest with
  | nil => rw [List.takeWhile_nil, List.append_nil]
  | cons char rest => rw [List.takeWhile_cons_of_neg (by simpa using stops), List.append_nil]

/-- A run does not reach what stands behind a text if the text has a character that no run of that
kind has. -/
theorem takeWhile_append_of_all {kind wider : Char → Bool}
    (within : ∀ char, kind char = true → wider char = true) (outside : text.all wider = false)
    (rest : Text) : (text ++ rest).takeWhile kind = text.takeWhile kind := by
  induction text with
  | nil => cases outside
  | cons char text inductionHypothesis =>
    rw [List.cons_append, List.takeWhile_cons, List.takeWhile_cons]
    split
    · rename_i fits
      rw [List.all_cons, within char fits, Bool.true_and] at outside
      rw [inductionHypothesis outside]
    · rfl

/-- A text is a run of characters of a kind and what is dropped behind it. -/
theorem exists_takeWhile (kind : Char → Bool) (text : Text) :
    ∃ rest, text = text.takeWhile kind ++ rest ∧
      text.drop (text.takeWhile kind).length = rest ∧ rest.head?.any kind = false := by
  induction text with
  | nil => exact ⟨[], rfl, rfl, rfl⟩
  | cons char text inductionHypothesis =>
    cases more : kind char with
    | false =>
      rw [List.takeWhile_cons_of_neg (by simp [more])]
      exact ⟨char :: text, rfl, rfl, more⟩
    | true =>
      obtain ⟨rest, whole, dropped, stops⟩ := inductionHypothesis
      rw [List.takeWhile_cons_of_pos more]
      exact ⟨rest, congrArg (char :: ·) whole, dropped, stops⟩

theorem not_mem_of_all {kind : Char → Bool} (all : text.all kind = true)
    (other : kind char = false) : char ∉ text := fun member =>
  Bool.false_ne_true (other.symm.trans (List.all_eq_true.mp all char member))

theorem trimRightWhile_cons (skip : Char → Bool) (char : Char) (text : Text) :
    trimRightWhile skip (char :: text) =
      if skip char && (trimRightWhile skip text).isEmpty then []
      else char :: trimRightWhile skip text := by
  rw [trimRightWhile, trimRightWhile, List.reverse_cons, List.dropWhile_append]
  cases left : text.reverse.dropWhile skip with
  | nil => cases skips : skip char <;> simp [skips]
  | cons last left => simp

/-! ### One step -/

theorem scanFrom_plain (missing : recognise before (char :: text) = none) :
    scanFrom recognise 0 before (char :: text) =
      .plain char :: scanFrom recognise 0 (some char) text := by
  rw [scanFrom, missing]

/-- The rest of an occurrence is passed over. -/
theorem scanFrom_length (before : Option Char) (part text : Text) :
    scanFrom recognise part.length before (part ++ text) =
      scanFrom recognise 0 (lastChar before part) text := by
  induction part generalizing before with
  | nil => rfl
  | cons char part inductionHypothesis =>
    rw [List.length_cons, List.cons_append, scanFrom, inductionHypothesis, lastChar]

theorem scanFrom_found (written : part ≠ [])
    (found : recognise before (part ++ text) = some (occurrence, part.length)) :
    scanFrom recognise 0 before (part ++ text) =
      .found occurrence :: scanFrom recognise 0 (lastChar before part) text := by
  obtain ⟨char, part, rfl⟩ := List.exists_cons_of_ne_nil written
  rw [List.cons_append] at found ⊢
  rw [scanFrom, found]
  dsimp only
  rw [List.length_cons, Nat.add_sub_cancel, scanFrom_length, lastChar]

/-! ### Where nothing is recognised -/

/-- Whether nothing is recognised at any place within a text that stands behind a character and in
front of a rest. -/
def IsBare (recognise : Recogniser Found) (before : Option Char) (text rest : Text) : Prop :=
  Code.nowhere (fun place => (recognise place.before place.rest).isSome) before text rest = true

theorem isBare_nil : IsBare recognise before [] rest := rfl

theorem isBare_cons : IsBare recognise before (char :: text) rest ↔
    recognise before (char :: (text ++ rest)) = none ∧
      IsBare recognise (some char) text rest := by
  rw [IsBare, Code.nowhere_cons, Option.isSome_eq_false_iff, Option.isNone_iff_eq_none]
  rfl

theorem isBare_append : IsBare recognise before (part ++ text) rest ↔
    IsBare recognise before part (text ++ rest) ∧
      IsBare recognise (lastChar before part) text rest := by
  induction part generalizing before with
  | nil => exact (and_iff_right isBare_nil).symm
  | cons char part inductionHypothesis =>
    rw [List.cons_append, isBare_cons, isBare_cons, inductionHypothesis, List.append_assoc,
      and_assoc]
    rfl

/-- What is recognised only where a kind of character stands is not recognised among others. -/
theorem isBare_of_all (isFirst : Char → Bool)
    (first : ∀ before char rest, (recognise before (char :: rest)).isSome = true →
      isFirst char = true) (others : text.all (!isFirst ·) = true) (before : Option Char)
    (rest : Text) : IsBare recognise before text rest :=
  Code.nowhere_of_all isFirst (fun before char rest => first before char rest) others before rest

theorem scanFrom_append_of_isBare (bare : IsBare recognise before text rest) :
    scanFrom recognise 0 before (text ++ rest) =
      text.map .plain ++ scanFrom recognise 0 (lastChar before text) rest := by
  induction text generalizing before with
  | nil => rfl
  | cons char text inductionHypothesis =>
    obtain ⟨missing, further⟩ := isBare_cons.mp bare
    rw [List.cons_append, scanFrom_plain missing, inductionHypothesis further]
    rfl

theorem scan_of_isBare (bare : IsBare recognise none text []) :
    scan recognise text = text.map .plain := by
  have whole := scanFrom_append_of_isBare bare
  rwa [List.append_nil, scanFrom, List.append_nil] at whole

/-- Something is recognised within a text exactly if the text can be cut where it is. -/
theorem not_isBare_iff : ¬ IsBare recognise before text rest ↔
    ∃ left char right, text = left ++ char :: right ∧
      (recognise (lastChar before left) (char :: (right ++ rest))).isSome = true := by
  induction text generalizing before with
  | nil =>
    refine iff_of_false (fun bare => bare isBare_nil) ?_
    rintro ⟨left, char, right, whole, -⟩
    simp at whole
  | cons first text inductionHypothesis =>
    rw [isBare_cons, Classical.not_and_iff_not_or_not, inductionHypothesis, ← ne_eq,
      Option.ne_none_iff_isSome]
    constructor
    · rintro (here | ⟨left, char, right, rfl, found⟩)
      · exact ⟨[], first, text, rfl, here⟩
      · exact ⟨first :: left, char, right, rfl, found⟩
    · rintro ⟨left, char, right, whole, found⟩
      cases left with
      | nil =>
        obtain ⟨rfl, rfl⟩ := List.cons.inj whole
        exact .inl found
      | cons other left =>
        obtain ⟨rfl, rfl⟩ := List.cons.inj whole
        exact .inr ⟨left, char, right, rfl, found⟩

theorem lastChar_none (text : Text) : lastChar none text = text.getLast? := by
  have general (before : Option Char) : lastChar before text = text.getLast?.or before := by
    induction text generalizing before with
    | nil => rfl
    | cons char text inductionHypothesis =>
      rw [lastChar, inductionHypothesis, List.getLast?_cons]
      cases text.getLast? <;> rfl
  rw [general, Option.or_none]

/-! ### Occurrences -/

/-- The occurrence that a piece is. -/
def Piece.found? : Piece Found → Option Found
  | .plain _ => none
  | .found occurrence => some occurrence

theorem findAll_eq (recognise : Recogniser Found) (text : Text) :
    findAll recognise text = (scan recognise text).filterMap Piece.found? := rfl

@[simp] theorem filterMap_found?_plain (text : Text) :
    (text.map Piece.plain).filterMap (Piece.found? : Piece Found → Option Found) = [] := by
  rw [List.filterMap_map]
  exact List.filterMap_eq_nil_iff.mpr fun _ _ => rfl

theorem mem_findAll : occurrence ∈ findAll recognise text ↔
    .found occurrence ∈ scan recognise text := by
  rw [findAll_eq, List.mem_filterMap]
  constructor
  · rintro ⟨piece, member, same⟩
    cases piece with
    | plain char => cases same
    | found other => rwa [← Option.some.inj same]
  · exact fun member => ⟨_, member, rfl⟩

/-- A text has a first occurrence exactly if something is recognised within it. -/
theorem isSome_findFirst?_iff :
    (findFirst? recognise text).isSome = true ↔ ¬ IsBare recognise none text [] := by
  rw [findFirst?, findAll_eq, scan]
  generalize (none : Option Char) = before
  induction text generalizing before with
  | nil => exact iff_of_false (by simp [scanFrom]) fun bare => bare isBare_nil
  | cons char text inductionHypothesis =>
    rw [isBare_cons, List.append_nil]
    cases here : recognise before (char :: text) with
    | some found => simp [scanFrom, here, Piece.found?]
    | none => simpa [scanFrom_plain here, Piece.found?] using inductionHypothesis (some char)

/-! ### Replacing -/

/-- A piece of a text with an occurrence rendered. -/
def Piece.shown (render : Found → Text) : Piece Found → Text
  | .plain char => [char]
  | .found occurrence => render occurrence

/-- A text that stands behind a character, with every occurrence replaced. -/
def replaceFrom (recognise : Recogniser Found) (render : Found → Text) (before : Option Char)
    (text : Text) : Text :=
  (scanFrom recognise 0 before text).flatMap (Piece.shown render)

variable {render : Found → Text}

@[simp] theorem replaceFrom_nil : replaceFrom recognise render before [] = [] := rfl

theorem replaceFrom_plain (missing : recognise before (char :: text) = none) :
    replaceFrom recognise render before (char :: text) =
      char :: replaceFrom recognise render (some char) text := by
  rw [replaceFrom, scanFrom_plain missing]
  rfl

theorem replaceFrom_found (written : part ≠ [])
    (found : recognise before (part ++ text) = some (occurrence, part.length)) :
    replaceFrom recognise render before (part ++ text) =
      render occurrence ++ replaceFrom recognise render (lastChar before part) text := by
  rw [replaceFrom, scanFrom_found written found]
  rfl

theorem replaceFrom_append_of_isBare (bare : IsBare recognise before text rest) :
    replaceFrom recognise render before (text ++ rest) =
      text ++ replaceFrom recognise render (lastChar before text) rest := by
  induction text generalizing before with
  | nil => rfl
  | cons char text inductionHypothesis =>
    obtain ⟨missing, further⟩ := isBare_cons.mp bare
    rw [List.cons_append, replaceFrom_plain missing, inductionHypothesis further]
    rfl

end GuidedMigration.Text
