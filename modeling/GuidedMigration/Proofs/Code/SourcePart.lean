/-
This file says what the two patterns of imports match: from the start of a line that begins with the
word `import`, the one goes to the first place that names the module behind `from`, over no
semicolon; the other has the module right behind the word.

It then reads a source file as a list of parts: import statements, and the code between them. A part
may name a module at its end, behind `from` as an import with a clause or a re-export does, or right
behind `import`; what closes the statement belongs to it. The file is the text of its parts, and it
is cut into them in such a way that a line that starts with `import` starts a part and what closes a
part is not continued behind it.
-/
import GuidedMigration.Proofs.Code.PatternMatch

namespace GuidedMigration.Code

open Text

/-! ### What stands at a place -/

/-- Whether a line starts at a place. -/
def Place.startsLine (place : Place) : Bool := place.before.all (· = '\n')

/-- What stands behind the word `import` in a text that starts with it, spaces and tabs aside. -/
def behindImport? (text : Text) : Option Text :=
  dropPrefix? importWord (text.dropWhile isSpaceOrTab)

/-- Whether a text starts with `import` as a whole word, spaces and tabs aside. -/
def opensImport (text : Text) : Bool := (behindImport? text).any fun rest => !rest.head?.any isWord

/-- Whether a line that starts with `import` starts at a place. -/
def Place.opensImport (place : Place) : Bool := place.startsLine && Code.opensImport place.rest

/-- What stands behind a quote in a text that starts with one. -/
def behindQuote? : Text → Option Text
  | [] => none
  | char :: rest => if isQuote char then some rest else none

/-- What stands behind a module between quotes in a text that starts with it. -/
def behindQuoted? (name text : Text) : Option Text :=
  (behindQuote? text).bind fun text => (dropPrefix? name text).bind behindQuote?

/-- What stands behind blanks and a module between quotes in a text that starts with them. -/
def behindSource? (name text : Text) : Option Text :=
  if text.head?.any isBlank then behindQuoted? name (text.dropWhile isBlank) else none

/-- What stands behind an import of a module for its effects alone in a text that starts with it. -/
def behindRun? (name text : Text) : Option Text := (behindImport? text).bind (behindSource? name)

/-- The word in front of the module of a statement. -/
def fromWord : Text := ['f', 'r', 'o', 'm']

/-- What stands behind a module that is named behind `from` at a place. -/
def Place.behindNamed? (name : Text) (place : Place) : Option Text :=
  if place.before.any isWord then none
  else (dropPrefix? fromWord place.rest).bind (behindSource? name)

/-- Whether a module is named behind `from` at a place. -/
def Place.names (name : Text) (place : Place) : Bool := (place.behindNamed? name).isSome

/-! ### What the patterns match -/

/-- The pattern of blanks, a module between quotes, and what is deleted with it. -/
def sourcePattern (name : Text) : Pattern := .blanks :: (quotedModule name ++ tail)

/-- The pattern of a module that is named behind `from`. -/
def fromPattern (name : Text) : Pattern := .wordEdge :: (exactly fromWord ++ sourcePattern name)

/-- A pattern at the start of a line, behind the word `import`. -/
def importing (pattern : Pattern) : Pattern :=
  .lineStart :: .margin :: (exactly importWord ++ pattern)

/-- The pattern of imports with a clause. -/
def clausePattern (name : Text) : Pattern := importing (.wordEdge :: .upTo ';' :: fromPattern name)

/-- The pattern of imports for effects alone. -/
def runPattern (name : Text) : Pattern := importing (sourcePattern name)

theorem importPatterns_eq (name : Text) :
    importPatterns name = [clausePattern name, runPattern name] := by
  have imported : "import".toList = importWord := by decide
  have named : "from".toList = fromWord := by decide
  simp only [importPatterns, imported, named, clausePattern, runPattern, importing, fromPattern,
    sourcePattern, List.append_assoc, List.cons_append, List.nil_append]

theorem contains_quotes (char : Char) : ['"', '\''].contains char = isQuote char := by
  rw [isQuote, Bool.eq_iff_iff]
  simp [or_comm]

variable {name text : Text} {before : Option Char}

theorem match?_quote (pattern : Pattern) (before : Option Char) (text : Text) :
    ∃ last, Pattern.match? (.oneOf ['"', '\''] :: pattern) ⟨before, text⟩ =
      (behindQuote? text).bind fun rest => Pattern.match? pattern ⟨last, rest⟩ := by
  cases text with
  | nil => exact ⟨none, rfl⟩
  | cons char rest =>
    refine ⟨some char, ?_⟩
    show (if ['"', '\''].contains char then Pattern.match? pattern ⟨some char, rest⟩ else none) = _
    rw [contains_quotes, behindQuote?]
    cases isQuote char <;> rfl

theorem match?_quoted (name : Text) (before : Option Char) (text : Text) :
    (Pattern.match? (quotedModule name ++ tail) ⟨before, text⟩).map Place.rest =
      (behindQuoted? name text).map dropTail := by
  rw [quotedModule, List.cons_append, List.cons_append, List.append_assoc]
  obtain ⟨last, opened⟩ := match?_quote (exactly name ++ ([.oneOf ['"', '\'']] ++ tail)) before text
  rw [opened, behindQuoted?]
  cases behindQuote? text with
  | none => rfl
  | some text =>
    rw [Option.bind_some, Option.bind_some, match?_exactly]
    cases dropPrefix? name text with
    | none => rfl
    | some text =>
      obtain ⟨last, closed⟩ := match?_quote tail (lastChar last name) text
      rw [Option.bind_some, Option.bind_some, List.singleton_append, closed]
      cases behindQuote? text with
      | none => rfl
      | some text => exact match?_tail _ _

theorem match?_source (name : Text) (before : Option Char) (text : Text) :
    (Pattern.match? (sourcePattern name) ⟨before, text⟩).map Place.rest =
      (behindSource? name text).map dropTail := by
  cases text with
  | nil => rfl
  | cons char text =>
    show (if isBlank char then
      Pattern.match? (quotedModule name ++ tail) (Place.skip isBlank ⟨some char, text⟩)
      else none).map Place.rest = _
    rw [behindSource?, List.head?_cons, Option.any_some]
    cases blank : isBlank char with
    | false => rfl
    | true =>
      rw [if_pos rfl, if_pos rfl, Place.skip_eq, match?_quoted, List.dropWhile_cons_of_pos blank]

theorem isWordEdge_of_isWord {char : Char} (word : isWord char = true) (before : Option Char) :
    isWordEdge before (some char) = !before.any isWord := by
  rw [isWordEdge, Option.any_some, word]
  cases before.any isWord <;> rfl

theorem match?_from (name : Text) (place : Place) :
    (Pattern.match? (fromPattern name) place).map Place.rest =
      (place.behindNamed? name).map dropTail := by
  obtain ⟨before, text⟩ := place
  show (if isWordEdge before text.head? then
    Pattern.match? (exactly fromWord ++ sourcePattern name) ⟨before, text⟩ else none).map
      Place.rest = _
  rw [match?_exactly, Place.behindNamed?]
  dsimp only
  cases found : dropPrefix? fromWord text with
  | none => simp
  | some rest =>
    have first : text.head? = some 'f' := by rw [dropPrefix?_eq_some found]; rfl
    rw [first, isWordEdge_of_isWord (by decide)]
    cases before.any isWord with
    | true => rfl
    | false => exact match?_source _ _ _

theorem isSome_match?_from (name : Text) :
    (fun place => (Pattern.match? (fromPattern name) place).isSome) = Place.names name := by
  funext place
  have same := congrArg Option.isSome (match?_from name place)
  rwa [Option.isSome_map, Option.isSome_map] at same

/-- A pattern behind `import` is matched behind the word. -/
theorem match?_importing (pattern : Pattern) (place : Place) :
    Pattern.match? (importing pattern) place =
      if place.startsLine then
        (behindImport? place.rest).bind fun rest => Pattern.match? pattern ⟨some 't', rest⟩
      else none := by
  show (if place.before.all (· = '\n') then
    Pattern.match? (exactly importWord ++ pattern) (place.skip isSpaceOrTab) else none) = _
  rw [Place.skip_eq, match?_exactly]
  rfl

/-- No module is named within spaces and tabs and the word `import`. -/
theorem nowhere_names_of_margin {margin : Text} (plain : margin.all isSpaceOrTab = true)
    (name : Text) (before : Option Char) (rest : Text) :
    nowhere (Place.names name) before (margin ++ importWord) rest = true := by
  refine nowhere_of_all (· = 'f') (fun before char rest named => ?_) ?_ _ _
  · rw [Place.names, Place.behindNamed?] at named
    split at named
    · exact absurd named Bool.false_ne_true
    · by_cases first : 'f' = char
      · exact decide_eq_true first.symm
      · rw [fromWord, dropPrefix?, if_neg first] at named
        exact absurd named Bool.false_ne_true
  · rw [List.all_append, Bool.and_eq_true]
    refine ⟨List.all_eq_true.mpr fun char member => ?_, by decide⟩
    have blank := List.all_eq_true.mp plain char member
    cases first : decide (char = 'f') with
    | false => rfl
    | true => exact absurd blank (by rw [of_decide_eq_true first]; decide)

theorem semicolon_not_mem_margin {margin : Text} (plain : margin.all isSpaceOrTab = true) :
    ';' ∉ margin ++ importWord := by
  intro member
  rcases List.mem_append.mp member with inMargin | inWord
  · exact absurd (List.all_eq_true.mp plain _ inMargin) (by decide)
  · exact absurd inWord (by decide)

/-- The pattern of imports with a clause goes, from a line that starts with `import`, to the first
place that names the module, over no semicolon. -/
theorem match?_clause (name : Text) (place : Place) :
    Pattern.match? (clausePattern name) place =
      if place.opensImport then
        reach? ';' (Pattern.match? (fromPattern name)) place.before place.rest
      else none := by
  rw [clausePattern, match?_importing, Place.opensImport, opensImport]
  cases place.startsLine with
  | false => rfl
  | true =>
    rw [if_pos rfl, Bool.true_and]
    cases found : behindImport? place.rest with
    | none => rfl
    | some rest =>
      have split : place.rest = (place.rest.takeWhile isSpaceOrTab ++ importWord) ++ rest := by
        rw [List.append_assoc, ← dropPrefix?_eq_some found, List.takeWhile_append_dropWhile]
      have plain : (place.rest.takeWhile isSpaceOrTab).all isSpaceOrTab = true :=
        List.all_takeWhile
      have absent := nowhere_names_of_margin plain name place.before rest
      rw [← isSome_match?_from] at absent
      rw [split, reach?_append absent, if_neg (semicolon_not_mem_margin plain), lastChar_append]
      show (if isWordEdge (some 't') rest.head? then
        reach? ';' (Pattern.match? (fromPattern name)) (some 't') rest else none) = _
      have edge : isWordEdge (some 't') rest.head? = !rest.head?.any isWord := by
        rw [isWordEdge, Option.any_some, show isWord 't' = true by decide]
        cases rest.head?.any isWord <;> rfl
      rw [edge]
      rfl

theorem match?_run (name : Text) (place : Place) :
    (Pattern.match? (runPattern name) place).map Place.rest =
      if place.startsLine then (behindRun? name place.rest).map dropTail else none := by
  rw [runPattern, match?_importing, behindRun?]
  cases place.startsLine with
  | false => rfl
  | true =>
    rw [if_pos rfl, if_pos rfl]
    cases behindImport? place.rest with
    | none => rfl
    | some rest => exact match?_source name _ rest

/-- An import of a module for its effects starts with the word `import`. -/
theorem opensImport_of_behindRun? (found : (behindRun? name text).isSome = true) :
    opensImport text = true := by
  rw [behindRun?] at found
  rw [opensImport]
  cases behind : behindImport? text with
  | none =>
    rw [behind] at found
    exact absurd found Bool.false_ne_true
  | some rest =>
    rw [behind, Option.bind_some, behindSource?] at found
    cases rest with
    | nil => rfl
    | cons char rest =>
      rw [Option.any_some, List.head?_cons, Option.any_some, Bool.not_eq_true']
      refine not_isWord_of_isBlank ?_
      cases blank : isBlank char with
      | true => rfl
      | false =>
        rw [List.head?_cons, Option.any_some, blank] at found
        exact absurd found Bool.false_ne_true

end GuidedMigration.Code

namespace GuidedMigration.Code

open Text

/-! ### Parts of a source file -/

/-- A module between quotes, with the blanks in front of it and the semicolon, the spaces and tabs
and the newline behind it, as far as they are there. -/
structure Source where
  gap : Text
  opening : Char
  name : Text
  closing : Char
  semicolon : Bool
  margin : Text
  newline : Bool
  gap_blank : gap.all isBlank = true
  opening_quote : isQuote opening = true
  name_unquoted : name.all (!isQuote ·) = true
  closing_quote : isQuote closing = true
  margin_plain : margin.all isSpaceOrTab = true

namespace Source

/-- What closes the statement. -/
def ending (source : Source) : Text :=
  (if source.semicolon then [';'] else []) ++
    (source.margin ++ if source.newline then ['\n'] else [])

/-- The text of the module as it is named. -/
def text (source : Source) : Text :=
  source.gap ++ source.opening :: (source.name ++ source.closing :: source.ending)

/-- Whether the module is the one of a name, and a blank stands in front of it. -/
def names (name : Text) (source : Source) : Bool := source.name = name && !source.gap.isEmpty

/-- Whether what closes the statement ends where a rest begins. -/
def closes (source : Source) (rest : Text) : Bool :=
  source.newline || rest.head?.all fun char => !isSpaceOrTab char && char ≠ '\n' &&
    (source.semicolon || !source.margin.isEmpty || char ≠ ';')

end Source

/-- A part of a source file. -/
inductive Part where
  /-- Code at whose end no module is named. -/
  | code (text : Text)
  /-- Code behind which a module is named with `from`: an import if the code starts with the word
  `import`, else a re-export or the like. -/
  | named (lead : Text) (source : Source)
  /-- An import of a module for its effects alone. -/
  | run (margin : Text) (source : Source)

namespace Part

/-- The text up to the word `from` behind which the module is named, or all of it. -/
def lead : Part → Text
  | .code text => text
  | .named lead _ => lead
  | .run margin source => margin ++ importWord ++ source.text

/-- The text from the word `from` on, behind which the module is named. -/
def naming : Part → Text
  | .code _ => []
  | .named _ source => fromWord ++ source.text
  | .run _ _ => []

/-- The text of a part. -/
def text (part : Part) : Text := part.lead ++ part.naming

/-- Whether a part starts with the word `import`. -/
def opens (part : Part) : Bool := opensImport part.text

/-- Whether a part ends a line. -/
def endsLine (part : Part) : Bool := (lastChar none part.text).all (· = '\n')

/-- Whether a part is an import from a module. -/
def imports (name : Text) (part : Part) : Bool :=
  match part with
  | .code _ => false
  | .named _ source => part.opens && source.name = name
  | .run _ source => source.name = name

/-- Whether a part names a module behind `from` and a blank. -/
def names (name : Text) : Part → Bool
  | .code _ => false
  | .named _ source => source.names name
  | .run _ _ => false

/-- Whether a part imports a module for its effects alone, named behind a blank. -/
def runs (name : Text) : Part → Bool
  | .code _ => false
  | .named _ _ => false
  | .run _ source => source.names name

/-- Whether what closes a part ends where a rest begins. -/
def closes : Part → Text → Bool
  | .code _, _ => true
  | .named _ source, rest => source.closes rest
  | .run _ source, rest => source.closes rest

end Part

/-- The text of a source file. -/
def fileText (parts : List Part) : Text := parts.flatMap Part.text

/-- A rest that may follow a part with parts on its right: nothing follows the last part. -/
def Follows (right : List Part) (rest : Text) : Prop := right = [] → rest = []

/-- How a part of each kind looks, whatever follows it: only an import of a module for its effects
goes on with the module behind `import`. -/
def Part.Shaped (name : Text) (right : List Part) : Part → Prop
  | .run margin _ => margin.all isSpaceOrTab = true
  | part => ∀ rest, Follows right rest → behindRun? name (part.text ++ rest) = none

/-- A part that is read alike whatever follows it, in which a line that starts with `import` starts
at the beginning only. -/
structure Part.Proper (name : Text) (right : List Part) (part : Part) : Prop where
  written : part.text ≠ []
  opening : ∀ rest, Follows right rest → opensImport (part.text ++ rest) = part.opens
  single : ∀ rest, Follows right rest →
    nowhere Place.opensImport part.text.head? part.text.tail rest = true
  shaped : part.Shaped name right

/-- A source file that is cut into proper parts, each of which ends where the next one begins. -/
def Laid (name : Text) : List Part → Prop
  | [] => True
  | part :: right =>
    part.Proper name right ∧ part.closes (fileText right) = true ∧ Laid name right

/-- Whether a module is named behind `from` only where a part says so, in parts behind a
character. -/
def namedByParts (name : Text) : Option Char → List Part → Bool
  | _, [] => true
  | before, part :: right =>
    nowhere (Place.names name) before part.lead (part.naming ++ fileText right) &&
      (if part.names name then !(lastChar before part.lead).any isWord
        else nowhere (Place.names name) (lastChar before part.lead) part.naming
          (fileText right)) &&
      namedByParts name (lastChar before part.text) right

variable {name rest : Text} {source : Source} {part : Part} {parts : List Part}
  {before : Option Char}

theorem fileText_cons (part : Part) (rest : List Part) :
    fileText (part :: rest) = part.text ++ fileText rest := rfl

/-! ### What is read at the end of a part -/

theorem not_isBlank_of_isQuote {char : Char} (quote : isQuote char = true) :
    isBlank char = false := by
  rw [isQuote, Bool.or_eq_true, decide_eq_true_eq, decide_eq_true_eq] at quote
  rcases quote with rfl | rfl <;> decide

theorem Source.dropTail_ending (closed : source.closes rest = true) :
    dropTail (source.ending ++ rest) = rest := by
  have behindSemicolon : dropOptional ';' (source.ending ++ rest) =
      source.margin ++ ((if source.newline then ['\n'] else []) ++ rest) := by
    rw [Source.ending, List.append_assoc, List.append_assoc]
    cases semicolon : source.semicolon with
    | true => rfl
    | false =>
      rw [if_neg Bool.false_ne_true, List.nil_append]
      cases margin : source.margin with
      | cons char margin =>
        have plain := source.margin_plain
        rw [margin, List.all_cons, Bool.and_eq_true] at plain
        have other : char ≠ ';' := by
          rintro rfl
          exact absurd plain.1 (by decide)
        rw [List.cons_append, dropOptional, if_neg other]
      | nil =>
        cases newline : source.newline with
        | true => rfl
        | false =>
          rw [Source.closes, newline, semicolon, margin] at closed
          cases rest with
          | nil => rfl
          | cons char rest =>
            have other : char ≠ ';' := by
              simp at closed
              exact closed.2
            exact if_neg other
  rw [dropTail, behindSemicolon,
    List.dropWhile_append_of_pos (List.all_eq_true.mp source.margin_plain)]
  cases newline : source.newline with
  | true => rfl
  | false =>
    rw [Source.closes, newline, Bool.false_or] at closed
    cases rest with
    | nil => rfl
    | cons char rest =>
      rw [List.head?_cons, Option.all_some, Bool.and_eq_true, Bool.and_eq_true] at closed
      obtain ⟨⟨solid, other⟩, -⟩ := closed
      rw [if_neg Bool.false_ne_true, List.nil_append,
        List.dropWhile_cons_of_neg (by simpa using solid)]
      exact if_neg (of_decide_eq_true other)

/-- Names without quotes are told apart at the quote behind them. -/
theorem dropPrefix?_unquoted {other : Text} {quote : Char} (quoted : isQuote quote = true)
    (plain : name.all (!isQuote ·) = true) (plain' : other.all (!isQuote ·) = true) (rest : Text) :
    (dropPrefix? name (other ++ quote :: rest)).bind behindQuote? =
      if other = name then some rest else none := by
  induction name generalizing other with
  | nil =>
    cases other with
    | nil => simp [dropPrefix?, behindQuote?, quoted]
    | cons char other =>
      rw [List.all_cons, Bool.and_eq_true, Bool.not_eq_true'] at plain'
      simp [dropPrefix?, behindQuote?, plain'.1]
  | cons first name inductionHypothesis =>
    rw [List.all_cons, Bool.and_eq_true, Bool.not_eq_true'] at plain
    cases other with
    | nil =>
      have different : first ≠ quote := by
        rintro rfl
        exact Bool.false_ne_true (plain.1.symm.trans quoted)
      rw [List.nil_append, dropPrefix?, if_neg different]
      rfl
    | cons char other =>
      rw [List.all_cons, Bool.and_eq_true] at plain'
      rw [List.cons_append, dropPrefix?]
      by_cases same : first = char
      · rw [if_pos same, inductionHypothesis plain.2 plain'.2]
        simp [same]
      · rw [if_neg same]
        simp [Ne.symm same]

/-- A source is read as the module that it names. -/
theorem behindSource?_text (plain : name.all (!isQuote ·) = true) (source : Source) (rest : Text) :
    behindSource? name (source.text ++ rest) =
      if source.names name then some (source.ending ++ rest) else none := by
  have solid := not_isBlank_of_isQuote source.opening_quote
  have behind : (source.text ++ rest).dropWhile isBlank =
      source.opening :: (source.name ++ source.closing :: (source.ending ++ rest)) := by
    rw [Source.text, List.append_assoc,
      List.dropWhile_append_of_pos (List.all_eq_true.mp source.gap_blank), List.cons_append,
      List.dropWhile_cons_of_neg (by simp [solid]), List.append_assoc, List.cons_append]
  have first : (source.text ++ rest).head?.any isBlank = !source.gap.isEmpty := by
    rw [Source.text]
    cases gap : source.gap with
    | nil => simpa using solid
    | cons char gap =>
      have blank := source.gap_blank
      rw [gap, List.all_cons, Bool.and_eq_true] at blank
      simpa using blank.1
  rw [behindSource?, first, behind, behindQuoted?, behindQuote?, if_pos source.opening_quote,
    Option.bind_some, dropPrefix?_unquoted source.closing_quote plain source.name_unquoted,
    Source.names]
  cases source.gap.isEmpty <;> by_cases same : source.name = name <;> simp [same]

end GuidedMigration.Code
