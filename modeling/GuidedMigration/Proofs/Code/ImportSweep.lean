/-
This file says what is left of a source file when the imports from a module are deleted. The first
pattern takes, from a line that starts with `import`, everything up to the first part that names the
module behind `from`, unless a semicolon stands before; the second takes the imports for effects
alone that then start a line. The text that is left is the text of the parts that are left.
-/
import GuidedMigration.Proofs.Code.SourcePart

namespace GuidedMigration.Code

open Text

/-- Whether parts reach a part that names a module behind `from`, over no semicolon. -/
def reaches (name : Text) : List Part → Bool
  | [] => false
  | part :: right =>
    !part.lead.contains ';' &&
      (part.names name || !part.naming.contains ';' && reaches name right)

/-- The parts that the first pattern leaves, at a place that lies within an occurrence or not, and
where a line starts or not. -/
def sweep (name : Text) : Bool → Bool → List Part → List Part
  | _, _, [] => []
  | within, startsLine, part :: right =>
    if within || startsLine && part.opens && reaches name (part :: right) then
      sweep name (!part.names name) part.endsLine right
    else part :: sweep name false part.endsLine right

/-- The parts that the second pattern leaves, at a place where a line starts or not. -/
def strike (name : Text) : Bool → List Part → List Part
  | _, [] => []
  | startsLine, part :: right =>
    if startsLine && part.runs name then strike name part.endsLine right
    else part :: strike name part.endsLine right

/-- The parts of a source file that are left when the imports from a module are deleted. -/
def survivors (name : Text) (parts : List Part) : List Part :=
  strike name true (sweep name false true parts)

variable {name text : Text} {part : Part} {parts right : List Part} {before : Option Char}

theorem sweep_sublist (name : Text) (within startsLine : Bool) (parts : List Part) :
    (sweep name within startsLine parts).Sublist parts := by
  induction parts generalizing within startsLine with
  | nil => exact List.Sublist.refl []
  | cons part right inductionHypothesis =>
    rw [sweep]
    split
    · exact (inductionHypothesis _ _).cons part
    · exact (inductionHypothesis _ _).cons_cons part

theorem strike_sublist (name : Text) (startsLine : Bool) (parts : List Part) :
    (strike name startsLine parts).Sublist parts := by
  induction parts generalizing startsLine with
  | nil => exact List.Sublist.refl []
  | cons part right inductionHypothesis =>
    rw [strike]
    split
    · exact (inductionHypothesis _).cons part
    · exact (inductionHypothesis _).cons_cons part

theorem survivors_sublist (name : Text) (parts : List Part) :
    (survivors name parts).Sublist parts :=
  (strike_sublist name true _).trans (sweep_sublist name false true parts)

/-- What is left of the parts behind one is not that one and all of them. -/
theorem ne_cons_of_sublist {left : List Part} (sublist : left.Sublist right) :
    left ≠ part :: right := by
  rintro rfl
  have short := sublist.length_le
  rw [List.length_cons] at short
  omega

/-! ### Reading parts one after the other -/

theorem follows_fileText (right : List Part) : Follows right (fileText right) :=
  fun last => last ▸ rfl

theorem Part.Proper.lastChar_text (proper : part.Proper name right) (before : Option Char) :
    (lastChar before part.text).all (· = '\n') = part.endsLine := by
  rw [Part.endsLine, lastChar_of_ne_nil proper.written before none]

/-- What is found only where a line starts with `import` is found nowhere in a part behind its
beginning. -/
theorem Part.Proper.nowhere_found {found : Place → Bool} (proper : part.Proper name right)
    (implies : ∀ place, found place = true → place.opensImport = true)
    (start : found ⟨before, part.text ++ fileText right⟩ = false) :
    nowhere found before part.text (fileText right) = true := by
  have inner := proper.single _ (follows_fileText right)
  obtain ⟨char, more, shape⟩ := List.exists_cons_of_ne_nil proper.written
  rw [shape] at inner start ⊢
  exact nowhere_cons.mpr ⟨start, nowhere_mono implies inner⟩

/-! ### The first pattern -/

/-- A module that a part names behind `from` is found there. -/
theorem behindNamed?_part (named : part.names name = true) (closed : part.closes text = true)
    (apart : (lastChar before part.lead).any isWord = false) :
    ((Place.behindNamed? name ⟨lastChar before part.lead, part.naming ++ text⟩).map dropTail) =
      some text := by
  cases part with
  | code _ => exact absurd named Bool.false_ne_true
  | run _ _ => exact absurd named Bool.false_ne_true
  | named lead source =>
    replace named : source.names name = true := named
    have same : source.name = name := by
      rw [Source.names, Bool.and_eq_true, decide_eq_true_eq] at named
      exact named.1
    rw [Place.behindNamed?, apart, if_neg Bool.false_ne_true, Part.naming, List.append_assoc,
      dropPrefix?_append, Option.bind_some, behindSource?_text (same ▸ source.name_unquoted),
      if_pos named, Option.map_some, Source.dropTail_ending closed]

/-- The parts behind the first one that names a module behind `from`. -/
def behindReach (name : Text) : List Part → List Part
  | [] => []
  | part :: right => if part.names name then right else behindReach name right

/-- The text up to the end of the first part that names a module behind `from`. -/
def reachText (name : Text) : List Part → Text
  | [] => []
  | part :: right => part.text ++ if part.names name then [] else reachText name right

theorem reachText_append (name : Text) (parts : List Part) :
    reachText name parts ++ fileText (behindReach name parts) = fileText parts := by
  induction parts with
  | nil => rfl
  | cons part right inductionHypothesis =>
    rw [reachText, behindReach, fileText_cons, List.append_assoc]
    cases part.names name with
    | true => rfl
    | false => exact congrArg _ inductionHypothesis

/-- Reading on from the start of parts, the module is found just if the parts reach it. -/
theorem reach?_fileText (laid : Laid name parts) (named : namedByParts name before parts = true) :
    (reach? ';' (Pattern.match? (fromPattern name)) before (fileText parts)).map Place.rest =
      if reaches name parts then some (fileText (behindReach name parts)) else none := by
  induction parts generalizing before with
  | nil =>
    show (Pattern.match? (fromPattern name) ⟨before, []⟩).map Place.rest = none
    rw [match?_from, Place.behindNamed?]
    cases before.any isWord <;> rfl
  | cons part right inductionHypothesis =>
    obtain ⟨-, closed, laid⟩ := laid
    rw [namedByParts, Bool.and_eq_true, Bool.and_eq_true] at named
    obtain ⟨⟨inLead, inNaming⟩, named⟩ := named
    rw [← isSome_match?_from] at inLead inNaming
    rw [fileText_cons, Part.text, List.append_assoc, reach?_append inLead, reaches, behindReach]
    by_cases semicolon : ';' ∈ part.lead
    · rw [if_pos semicolon, List.contains_iff_mem.mpr semicolon]
      rfl
    · rw [if_neg semicolon, Bool.eq_false_iff.mpr fun holds =>
        semicolon (List.contains_iff_mem.mp holds)]
      cases names : part.names name with
      | true =>
        rw [names, if_pos rfl, Bool.not_eq_true'] at inNaming
        have found := behindNamed?_part names closed inNaming
        rw [← match?_from] at found
        obtain ⟨place, continues, behind⟩ := Option.map_eq_some_iff.mp found
        rw [reach?_of_continue continues, Option.map_some, behind]
        rfl
      | false =>
        rw [names, if_neg Bool.false_ne_true] at inNaming
        rw [reach?_append inNaming, ← lastChar_append]
        by_cases semicolon : ';' ∈ part.naming
        · rw [if_pos semicolon, List.contains_iff_mem.mpr semicolon]
          rfl
        · rw [if_neg semicolon, Bool.eq_false_iff.mpr fun holds =>
            semicolon (List.contains_iff_mem.mp holds)]
          exact inductionHypothesis laid named

/-- The pattern of imports with a clause matches, at the start of a part, up to the module just if
the part starts a line with `import` and the module is reached from there. -/
theorem match?_clause_part (laid : Laid name (part :: right))
    (named : namedByParts name before (part :: right) = true) :
    (Pattern.match? (clausePattern name) ⟨before, fileText (part :: right)⟩).map Place.rest =
      if before.all (· = '\n') && part.opens && reaches name (part :: right) then
        some (fileText (behindReach name (part :: right))) else none := by
  rw [match?_clause, Place.opensImport, Place.startsLine, fileText_cons,
    laid.1.opening _ (follows_fileText right)]
  cases before.all (· = '\n') && part.opens with
  | true => exact reach?_fileText laid named
  | false => rfl

/-- Where no import with a clause to the module starts, none starts in the whole part. -/
theorem nowhere_clause (laid : Laid name (part :: right))
    (named : namedByParts name before (part :: right) = true)
    (here : (before.all (· = '\n') && part.opens && reaches name (part :: right)) = false) :
    nowhere (fun place => (Pattern.match? (clausePattern name) place).isSome) before part.text
      (fileText right) = true := by
  have matched := match?_clause_part laid named
  refine laid.1.nowhere_found (fun place found => ?_) ?_
  · rw [match?_clause] at found
    cases opens : place.opensImport with
    | true => rfl
    | false =>
      rw [opens] at found
      exact absurd found Bool.false_ne_true
  · rw [here, if_neg Bool.false_ne_true, Option.map_eq_none_iff, fileText_cons] at matched
    rw [matched]
    rfl

/-- Where an import with a clause to the module starts, the sweep takes the part, and goes on as
within an occurrence. -/
theorem sweep_of_reached {startsLine : Bool}
    (here : (startsLine && part.opens && reaches name (part :: right)) = true) :
    sweep name false startsLine (part :: right) = sweep name true true (part :: right) ∧
      sweep name true true (part :: right) ≠ part :: right := by
  constructor
  · rw [sweep, sweep, here, Bool.or_true, Bool.true_or]
  · rw [sweep, Bool.true_or, if_pos rfl]
    exact ne_cons_of_sublist (sweep_sublist name _ _ right)

theorem reachText_ne_nil (proper : part.Proper name right) :
    reachText name (part :: right) ≠ [] := by
  rw [reachText]
  exact fun empty => proper.written (List.append_eq_nil_iff.mp empty).1

/-- Deleting the imports with a clause leaves the parts that the sweep leaves, within an occurrence
and outside, and counts nothing just if these are all. -/
theorem deleteFrom_clause (laid : Laid name parts) (named : namedByParts name before parts = true) :
    (∀ startsLine, reaches name parts = true →
      (deleteFrom (clausePattern name) (reachText name parts).length before (fileText parts)).1 =
        fileText (sweep name true startsLine parts)) ∧
    (deleteFrom (clausePattern name) 0 before (fileText parts)).1 =
      fileText (sweep name false (before.all (· = '\n')) parts) ∧
    ((deleteFrom (clausePattern name) 0 before (fileText parts)).2 = 0 ↔
      sweep name false (before.all (· = '\n')) parts = parts) := by
  induction parts generalizing before with
  | nil =>
    have absent : Pattern.match? (clausePattern name) ⟨before, []⟩ = none := by
      rw [match?_clause, Place.opensImport]
      cases Place.startsLine ⟨before, []⟩ <;> rfl
    refine ⟨fun _ reached => absurd reached Bool.false_ne_true, ?_⟩
    rw [fileText, List.flatMap_nil, deleteFrom, absent]
    exact ⟨rfl, iff_of_true rfl rfl⟩
  | cons part right inductionHypothesis =>
    have matched := match?_clause_part laid named
    have absent := nowhere_clause laid named
    obtain ⟨proper, -, laid⟩ := laid
    rw [namedByParts, Bool.and_eq_true] at named
    have further := inductionHypothesis laid named.2
    rw [proper.lastChar_text] at further
    obtain ⟨within, outside, untouched⟩ := further
    have inside (startsLine : Bool) (reached : reaches name (part :: right) = true) :
        (deleteFrom (clausePattern name) (reachText name (part :: right)).length before
          (fileText (part :: right))).1 =
            fileText (sweep name true startsLine (part :: right)) := by
      rw [reachText, List.length_append, fileText_cons, deleteFrom_skip, sweep, Bool.true_or,
        if_pos rfl]
      cases names : part.names name with
      | true => exact outside
      | false =>
        rw [reaches, names, Bool.false_or, Bool.and_eq_true, Bool.and_eq_true] at reached
        exact within part.endsLine reached.2.2
    refine ⟨inside, ?_⟩
    cases here : before.all (· = '\n') && part.opens && reaches name (part :: right) with
    | true =>
      obtain ⟨swept, fewer⟩ := sweep_of_reached here
      rw [here, if_pos rfl, ← reachText_append name (part :: right)] at matched
      rw [swept, ← reachText_append name (part :: right),
        deleteFrom_occurrence (reachText_ne_nil proper) matched, reachText_append]
      exact ⟨inside true (Bool.and_eq_true_iff.mp here).2,
        iff_of_false (Nat.succ_ne_zero _) fewer⟩
    | false =>
      rw [fileText_cons, deleteFrom_append (absent here), sweep, here, Bool.false_or,
        if_neg Bool.false_ne_true, fileText_cons]
      exact ⟨congrArg _ outside, untouched.trans (List.cons_inj_right part).symm⟩

/-! ### The second pattern -/

/-- At the start of a part, an import of a module for its effects is found just if the part is
one. -/
theorem behindRun?_part (plain : name.all (!isQuote ·) = true) (proper : part.Proper name right)
    (follows : Follows right text) (closed : part.closes text = true) :
    (behindRun? name (part.text ++ text)).map dropTail =
      if part.runs name then some text else none := by
  have shaped := proper.shaped
  cases part with
  | code code => exact congrArg _ (shaped text follows)
  | named lead source => exact congrArg _ (shaped text follows)
  | run margin source =>
    have behind : behindImport? ((Part.run margin source).text ++ text) =
        some (source.text ++ text) := by
      rw [Part.text, Part.lead, Part.naming, List.append_nil, List.append_assoc, List.append_assoc,
        behindImport?, List.dropWhile_append_of_pos (List.all_eq_true.mp shaped)]
      exact dropPrefix?_append importWord _
    rw [behindRun?, behind, Option.bind_some, behindSource?_text plain, Part.runs]
    cases source.names name with
    | false => rfl
    | true => exact congrArg some (Source.dropTail_ending closed)

/-- Where no import of the module for its effects starts, none starts in the whole part. -/
theorem nowhere_run (plain : name.all (!isQuote ·) = true) (laid : Laid name (part :: right))
    (here : (before.all (· = '\n') && part.runs name) = false) :
    nowhere (fun place => (Pattern.match? (runPattern name) place).isSome) before part.text
      (fileText right) = true := by
  obtain ⟨proper, closed, -⟩ := laid
  have matched := match?_run name ⟨before, part.text ++ fileText right⟩
  rw [behindRun?_part plain proper (follows_fileText right) closed] at matched
  refine proper.nowhere_found (fun place found => ?_) ?_
  · rw [← Option.isSome_map (f := Place.rest), match?_run] at found
    rw [Place.opensImport]
    cases starts : place.startsLine with
    | true =>
      rw [starts, if_pos rfl, Option.isSome_map] at found
      exact opensImport_of_behindRun? found
    | false =>
      rw [starts] at found
      exact absurd found Bool.false_ne_true
  · rw [← Option.isSome_map (f := Place.rest), matched, Place.startsLine]
    rw [Bool.and_eq_false_iff] at here
    rcases here with other | other <;> simp [other]

/-- Deleting the imports for effects alone leaves the parts that are not struck, and counts nothing
just if these are all. -/
theorem deleteFrom_run (plain : name.all (!isQuote ·) = true) (laid : Laid name parts)
    (before : Option Char) :
    (deleteFrom (runPattern name) 0 before (fileText parts)).1 =
      fileText (strike name (before.all (· = '\n')) parts) ∧
    ((deleteFrom (runPattern name) 0 before (fileText parts)).2 = 0 ↔
      strike name (before.all (· = '\n')) parts = parts) := by
  induction parts generalizing before with
  | nil =>
    have absent : Pattern.match? (runPattern name) ⟨before, []⟩ = none := by
      rw [← Option.map_eq_none_iff (f := Place.rest), match?_run]
      cases Place.startsLine ⟨before, []⟩ <;> rfl
    rw [fileText, List.flatMap_nil, deleteFrom, absent]
    exact ⟨rfl, iff_of_true rfl rfl⟩
  | cons part right inductionHypothesis =>
    have absent := @nowhere_run _ _ _ before plain laid
    obtain ⟨proper, closed, laid⟩ := laid
    have further := inductionHypothesis laid (lastChar before part.text)
    rw [proper.lastChar_text] at further
    obtain ⟨outside, untouched⟩ := further
    have matched := match?_run name ⟨before, part.text ++ fileText right⟩
    rw [behindRun?_part plain proper (follows_fileText right) closed] at matched
    rw [fileText_cons, strike]
    cases here : before.all (· = '\n') && part.runs name with
    | true =>
      obtain ⟨starts, runs⟩ := Bool.and_eq_true_iff.mp here
      rw [Place.startsLine, if_pos starts, if_pos runs] at matched
      have skipped := deleteFrom_skip (runPattern name) 0 before part.text (fileText right)
      rw [Nat.add_zero] at skipped
      rw [if_pos rfl, deleteFrom_occurrence proper.written matched, skipped]
      exact ⟨outside, iff_of_false (Nat.succ_ne_zero _)
        (ne_cons_of_sublist (strike_sublist name _ right))⟩
    | false =>
      rw [if_neg Bool.false_ne_true, deleteFrom_append (absent here), fileText_cons]
      exact ⟨congrArg _ outside, untouched.trans (List.cons_inj_right part).symm⟩

/-! ### Both patterns -/

/-- A part is as proper when there is nothing on its right any more. -/
theorem Part.Proper.mono (proper : part.Proper name right) (fewer : right = [] → parts = []) :
    part.Proper name parts := by
  have follows {text : Text} (follows : Follows parts text) : Follows right text :=
    fun last => follows (fewer last)
  refine ⟨proper.written, fun rest after => proper.opening rest (follows after),
    fun rest after => proper.single rest (follows after), ?_⟩
  have shaped := proper.shaped
  cases part with
  | code => exact fun rest after => shaped rest (follows after)
  | named => exact fun rest after => shaped rest (follows after)
  | run => exact shaped

theorem Source.endsLine_text (source : Source) (before : Option Char) :
    (lastChar before source.text).all (· = '\n') = source.newline := by
  rw [Source.text, lastChar_append, lastChar, lastChar_append, lastChar, Source.ending]
  cases source.newline with
  | true =>
    rw [if_pos rfl, ← List.append_assoc, lastChar_append]
    rfl
  | false =>
    rw [if_neg Bool.false_ne_true, List.append_nil]
    obtain ⟨last, member, same⟩ := exists_lastChar (List.cons_ne_nil source.closing
      ((if source.semicolon then [';'] else []) ++ source.margin)) none
    rw [lastChar] at same
    rw [same, Option.all_some, decide_eq_false_iff_not]
    rintro rfl
    rw [List.mem_cons, List.mem_append] at member
    rcases member with first | inSemicolon | inMargin
    · exact absurd (first ▸ source.closing_quote) (by decide)
    · split at inSemicolon
      · exact absurd inSemicolon (by decide)
      · exact absurd inSemicolon List.not_mem_nil
    · exact absurd (List.all_eq_true.mp source.margin_plain _ inMargin) (by decide)

/-- What closes a part that ends a line is not continued. -/
theorem Part.closes_of_endsLine (ends : part.endsLine = true) (text : Text) :
    part.closes text = true := by
  have newline (source : Source) (before : Option Char)
      (ends : (lastChar before source.text).all (· = '\n') = true) :
      source.closes text = true := by
    rw [source.endsLine_text] at ends
    rw [Source.closes, ends, Bool.true_or]
  rw [Part.endsLine, Part.text, lastChar_append] at ends
  cases part with
  | code => rfl
  | named lead source =>
    rw [Part.naming, lastChar_append] at ends
    exact newline source _ ends
  | run margin source =>
    rw [Part.naming, lastChar, Part.lead, lastChar_append] at ends
    exact newline source _ ends

/-- How a part is closed depends on the next character only. -/
theorem Part.closes_congr {more : Text} (same : text.head? = more.head?) :
    part.closes text = part.closes more := by
  cases part with
  | code => rfl
  | named lead source => rw [Part.closes, Part.closes, Source.closes, Source.closes, same]
  | run margin source => rw [Part.closes, Part.closes, Source.closes, Source.closes, same]

theorem head?_fileText (written : part.text ≠ []) (right : List Part) :
    (fileText (part :: right)).head? = part.text.head? := by
  obtain ⟨char, text, shape⟩ := List.exists_cons_of_ne_nil written
  rw [fileText_cons, shape]
  rfl

/-- The parts that the first pattern leaves end where the next ones begin: parts go only where a
line starts. -/
theorem Laid.sweep (laid : Laid name parts) (within startsLine : Bool) :
    Laid name (sweep name within startsLine parts) := by
  induction parts generalizing within startsLine with
  | nil => exact laid
  | cons part right inductionHypothesis =>
    obtain ⟨proper, closed, laid⟩ := laid
    rw [Code.sweep]
    split
    · exact inductionHypothesis laid _ _
    · refine ⟨proper.mono fun last => by rw [last, Code.sweep], ?_, inductionHypothesis laid _ _⟩
      cases ends : part.endsLine with
      | true => exact part.closes_of_endsLine ends _
      | false =>
        cases right with
        | nil => exact closed
        | cons next right =>
          have same := (head?_fileText laid.1.written
            (Code.sweep name false next.endsLine right)).trans
            (head?_fileText laid.1.written right).symm
          rw [Code.sweep, Bool.false_and, Bool.false_and, Bool.or_false,
            if_neg Bool.false_ne_true, Part.closes_congr same]
          exact closed

/-- Deleting the imports from a module leaves the text of the survivors, blank lines collapsed if
these are not all parts. -/
theorem deletePatterns_importPatterns (plain : name.all (!isQuote ·) = true)
    (laid : Laid name parts) (named : namedByParts name none parts = true) :
    (deletePatterns (fileText parts) (importPatterns name)).1 =
      if (survivors name parts).length = parts.length then fileText parts
      else collapseBlankLines (fileText (survivors name parts)) := by
  obtain ⟨-, swept, noneSwept⟩ := deleteFrom_clause laid named
  obtain ⟨struck, noneStruck⟩ := deleteFrom_run plain (laid.sweep false true) none
  rw [Option.all_none] at swept noneSwept struck noneStruck
  have all : (survivors name parts).length = parts.length ↔
      (deleteFrom (clausePattern name) 0 none (fileText parts)).2 +
        (deleteFrom (runPattern name) 0 none (fileText (sweep name false true parts))).2 = 0 := by
    have first := sweep_sublist name false true parts
    have second := strike_sublist name true (sweep name false true parts)
    have shorter := first.length_le
    have shortest := second.length_le
    rw [Nat.add_eq_zero_iff, noneSwept, noneStruck, survivors]
    constructor
    · intro same
      exact ⟨first.eq_of_length (by omega), second.eq_of_length (by omega)⟩
    · rintro ⟨noneSwept, noneStruck⟩
      rw [noneStruck, noneSwept]
  rw [importPatterns_eq, deletePatterns, List.foldl_cons, List.foldl_cons, List.foldl_nil]
  dsimp only [deletePattern]
  rw [swept, struck, Nat.zero_add]
  by_cases untouched : (survivors name parts).length = parts.length
  · rw [if_pos untouched, if_pos (all.mp untouched)]
    exact congrArg fileText ((survivors_sublist name parts).eq_of_length untouched)
  · rw [if_neg untouched, if_neg (fun none => untouched (all.mpr none))]
    rfl

end GuidedMigration.Code
