/-
This file shows that the tolerant pattern of a snippet means the same code up to its layout. The
texts that it takes as a whole are the snippet in any layout, with what may stand behind deleted
code; and each of them is found, although matching never gives back a blank that it has read.
-/
import GuidedMigration.Proofs.Code.PatternSource

namespace GuidedMigration.Code

open Text

/-! ### Layout -/

/-- Whether a code is another one in a different layout: where there are blanks there are other
blanks or none, quotes may be of another style, and there may be blanks around brackets and
commas. -/
inductive Relaid : Text → Text → Prop
  | nil : Relaid [] []
  | blanks {old new code other : Text} (written : old ≠ []) (blank : isBlankText old = true)
      (blank' : isBlankText new = true) (further : Relaid code other) :
      Relaid (old ++ code) (new ++ other)
  | quote {mark mark' : Char} {code other : Text} (among : mark ∈ quotes) (among' : mark' ∈ quotes)
      (further : Relaid code other) : Relaid (mark :: code) (mark' :: other)
  | bracket {char : Char} {before behind code other : Text} (loose : isLoose char = true)
      (blank : isBlankText before = true) (blank' : isBlankText behind = true)
      (further : Relaid code other) :
      Relaid (char :: code) (before ++ char :: (behind ++ other))
  | same {code other : Text} (char : Char) (further : Relaid code other) :
      Relaid (char :: code) (char :: other)

/-- What is left of code without its layout: no blanks, and quotes of one style. -/
def essence (code : Text) : Text :=
  (code.filter (!isBlank ·)).map fun char => if quotes.contains char then '\'' else char

variable {code other left right : Text} {place behind : Place} {pattern : Pattern} {char : Char}

theorem essence_append (left right : Text) :
    essence (left ++ right) = essence left ++ essence right := by
  rw [essence, List.filter_append, List.map_append]
  rfl

theorem essence_of_isBlankText (blank : isBlankText code = true) : essence code = [] := by
  have none' : code.filter (!isBlank ·) = [] :=
    List.filter_eq_nil_iff.mpr fun char member => by simp [List.all_eq_true.mp blank char member]
  rw [essence, none']
  rfl

theorem essence_cons (char : Char) (code : Text) :
    essence (char :: code) = essence [char] ++ essence code :=
  essence_append [char] code

theorem essence_quote (among : char ∈ quotes) : essence [char] = ['\''] := by
  simp [essence, not_isBlank_of_mem_quotes among, among]

/-- Another layout leaves the essence of code. -/
theorem Relaid.essence_eq (relaid : Relaid code other) : essence other = essence code := by
  induction relaid with
  | nil => rfl
  | blanks written blank blank' further inductionHypothesis =>
    rw [essence_append, essence_append, essence_of_isBlankText blank,
      essence_of_isBlankText blank', inductionHypothesis]
  | @quote mark mark' code other among among' further inductionHypothesis =>
    rw [essence_cons mark' other, essence_cons mark code, essence_quote among',
      essence_quote among, inductionHypothesis]
  | @bracket char before behind code other loose blank blank' further inductionHypothesis =>
    rw [essence_append, essence_of_isBlankText blank, essence_cons char (behind ++ other),
      essence_append, essence_of_isBlankText blank', essence_cons char code, inductionHypothesis]
    rfl
  | @same code other char further inductionHypothesis =>
    rw [essence_cons char other, essence_cons char code, inductionHypothesis]

theorem IsTail.essence_eq (isTail : IsTail code) : essence code = [] ∨ essence code = [';'] := by
  obtain ⟨mark, spaces, line, isMark, blank, isLine, rfl⟩ := isTail
  have line' : essence line = [] := by rcases isLine with rfl | rfl <;> decide
  rw [essence_append, essence_append, line',
    essence_of_isBlankText (isBlankText_of_all_isSpaceOrTab blank)]
  rcases isMark with rfl | rfl
  · exact .inl rfl
  · exact .inr (by decide)

/-! ### Reading code in another layout -/

theorem mem_of_mem_mergeGaps {piece : PatternPiece} (member : piece ∈ mergeGaps pattern) :
    piece ∈ pattern := by
  induction pattern with
  | nil => exact member
  | cons first pattern inductionHypothesis =>
    by_cases isGap : first = .gap
    · rw [isGap]
      by_cases begins : pattern.head? = some .gap
      · rw [isGap, mergeGaps_gap_of_gap begins] at member
        exact List.mem_cons_of_mem _ (inductionHypothesis member)
      · rw [isGap, mergeGaps_gap_of_other begins] at member
        exact List.mem_cons.mpr ((List.mem_cons.mp member).imp id inductionHypothesis)
    · rw [mergeGaps_cons isGap] at member
      exact List.mem_cons.mpr ((List.mem_cons.mp member).imp id inductionHypothesis)

theorem tight_loosely (code : Text) : ∀ piece ∈ loosely code, piece.Tight := by
  intro piece member
  obtain ⟨char, -, own⟩ := List.mem_flatMap.mp (mem_of_mem_mergeGaps member)
  exact tight_loosePieces char piece own

/-- Two gaps read what one gap reads. -/
theorem spans_gap_gap : Pattern.Spans (.gap :: .gap :: pattern) place behind ↔
    Pattern.Spans (.gap :: pattern) place behind := by
  constructor
  · rintro ⟨first, ⟨blanks, blank, passes⟩, second, ⟨blanks', blank', passes'⟩, further⟩
    refine ⟨second, ⟨blanks ++ blanks', ?_, Place.passes_append.mpr ⟨first, passes, passes'⟩⟩,
      further⟩
    rw [isBlankText_append, blank, blank']
    rfl
  · rintro ⟨first, own, further⟩
    exact ⟨first, own, first, ⟨[], rfl, Place.passes_nil.mpr rfl⟩, further⟩

theorem spans_mergeGaps (pattern : Pattern) (place behind : Place) :
    Pattern.Spans (mergeGaps pattern) place behind ↔ pattern.Spans place behind := by
  induction pattern generalizing place with
  | nil => exact Iff.rfl
  | cons piece pattern inductionHypothesis =>
    by_cases isGap : piece = .gap
    · rw [isGap]
      by_cases begins : pattern.head? = some .gap
      · obtain ⟨more, rfl⟩ := List.head?_eq_some_iff.mp begins
        rw [mergeGaps_gap_of_gap begins, inductionHypothesis, spans_gap_gap]
      · rw [mergeGaps_gap_of_other begins]
        simp only [Pattern.Spans, inductionHypothesis]
    · rw [mergeGaps_cons isGap]
      simp only [Pattern.Spans, inductionHypothesis]

theorem loosePieces_of_isBlank (blank : isBlank char = true) : loosePieces char = [.gap] := by
  have noQuote : quotes.contains char = false := by
    refine Bool.eq_false_iff.mpr fun quote => ?_
    have solid := not_isBlank_of_mem_quotes (List.contains_iff_mem.mp quote)
    exact Bool.false_ne_true (solid.symm.trans blank)
  rw [loosePieces, noQuote, blank]
  rfl

theorem loosePieces_of_isLoose (loose : isLoose char = true) :
    loosePieces char = [.gap, .char char, .gap] := by
  simp only [isLoose, List.contains_eq_mem, List.mem_cons, List.not_mem_nil, or_false,
    decide_eq_true_eq] at loose
  rcases loose with rfl | rfl | rfl | rfl | rfl | rfl | rfl <;> decide

/-- The gaps for blanks can read nothing. -/
theorem spans_blanks (blank : isBlankText code = true) (place : Place) :
    Pattern.Spans (code.flatMap loosePieces) place place := by
  induction code with
  | nil => rfl
  | cons char code inductionHypothesis =>
    rw [isBlankText, List.all_cons, Bool.and_eq_true] at blank
    rw [List.flatMap_cons, loosePieces_of_isBlank blank.1]
    exact ⟨place, ⟨[], rfl, Place.passes_nil.mpr rfl⟩, inductionHypothesis blank.2⟩

/-- A character is read by its own pieces. -/
theorem spans_loosePieces (passes : place.Passes [char] behind) :
    Pattern.Spans (loosePieces char) place behind := by
  have nothing (place : Place) : PatternPiece.gap.Spans place place :=
    ⟨[], rfl, Place.passes_nil.mpr rfl⟩
  rw [loosePieces]
  split
  · rename_i quote
    exact ⟨behind, ⟨char, List.contains_iff_mem.mp quote, passes⟩, rfl⟩
  · split
    · rename_i blank
      exact ⟨behind, ⟨[char], by simp [isBlankText, blank], passes⟩, rfl⟩
    · split
      · exact ⟨place, nothing place, behind, passes, behind, nothing behind, rfl⟩
      · exact ⟨behind, passes, rfl⟩

/-- Code in another layout is read by the pieces of the code. -/
theorem Relaid.spans (relaid : Relaid code other) (passes : place.Passes other behind) :
    Pattern.Spans (code.flatMap loosePieces) place behind := by
  induction relaid generalizing place with
  | nil => exact Place.passes_nil.mp passes
  | @blanks old new code other written blank blank' further inductionHypothesis =>
    obtain ⟨middle, passed, passes⟩ := Place.passes_append.mp passes
    obtain ⟨char, old, rfl⟩ := List.exists_cons_of_ne_nil written
    rw [isBlankText, List.all_cons, Bool.and_eq_true] at blank
    rw [List.flatMap_append, List.flatMap_cons, loosePieces_of_isBlank blank.1]
    refine spans_append.mpr ⟨middle, ?_, inductionHypothesis passes⟩
    exact ⟨middle, ⟨new, blank', passed⟩, spans_blanks blank.2 middle⟩
  | @quote mark mark' code other among among' further inductionHypothesis =>
    obtain ⟨middle, passed, passes⟩ := (@Place.passes_append _ _ [mark'] other).mp passes
    rw [List.flatMap_cons, loosePieces, if_pos (List.contains_iff_mem.mpr among)]
    exact ⟨middle, ⟨mark', among', passed⟩, inductionHypothesis passes⟩
  | @bracket char before after code other loose blank blank' further inductionHypothesis =>
    obtain ⟨first, passed, passes⟩ := Place.passes_append.mp passes
    obtain ⟨second, here, passes⟩ := (@Place.passes_append _ _ [char] (after ++ other)).mp passes
    obtain ⟨third, passed', passes⟩ := Place.passes_append.mp passes
    rw [List.flatMap_cons, loosePieces_of_isLoose loose]
    exact ⟨first, ⟨before, blank, passed⟩, second, here, third, ⟨after, blank', passed'⟩,
      inductionHypothesis passes⟩
  | @same code other char further inductionHypothesis =>
    obtain ⟨middle, passed, passes⟩ := (@Place.passes_append _ _ [char] other).mp passes
    rw [List.flatMap_cons]
    exact spans_append.mpr ⟨middle, spans_loosePieces passed, inductionHypothesis passes⟩

/-- What the pieces of code read is the code in another layout. -/
theorem exists_relaid_of_spans
    (spans : Pattern.Spans (code.flatMap loosePieces) place behind) :
    ∃ other, Relaid code other ∧ place.Passes other behind := by
  induction code generalizing place with
  | nil => exact ⟨[], .nil, Place.passes_nil.mpr spans⟩
  | cons char code inductionHypothesis =>
    rw [List.flatMap_cons, spans_append] at spans
    obtain ⟨middle, own, further⟩ := spans
    obtain ⟨other, relaid, passes⟩ := inductionHypothesis further
    rw [loosePieces] at own
    split at own
    · rename_i quote
      obtain ⟨_, ⟨found, among, passed⟩, rfl⟩ := own
      exact ⟨found :: other, .quote (List.contains_iff_mem.mp quote) among relaid,
        Place.passes_append.mpr ⟨_, passed, passes⟩⟩
    · split at own
      · rename_i blank
        obtain ⟨_, ⟨blanks, blank', passed⟩, rfl⟩ := own
        refine ⟨blanks ++ other, ?_, Place.passes_append.mpr ⟨_, passed, passes⟩⟩
        exact @Relaid.blanks [char] _ _ _ (List.cons_ne_nil _ _) (by simp [isBlankText, blank])
          blank' relaid
      · split at own
        · rename_i loose
          obtain ⟨first, ⟨blanks, blank, passed⟩, second, here, gap⟩ := own
          obtain ⟨_, ⟨blanks', blank', passed'⟩, rfl⟩ := gap
          have there : first.Passes ([char] ++ (blanks' ++ other)) behind :=
            Place.passes_append.mpr ⟨second, here, Place.passes_append.mpr ⟨_, passed', passes⟩⟩
          exact ⟨blanks ++ char :: (blanks' ++ other), .bracket loose blank blank' relaid,
            Place.passes_append.mpr ⟨first, passed, there⟩⟩
        · obtain ⟨_, passed, rfl⟩ := own
          exact ⟨char :: other, .same char relaid, Place.passes_append.mpr ⟨_, passed, passes⟩⟩

/-! ### The tolerant pattern -/

/-- The texts that the tolerant pattern of code takes as a whole: the code in any layout and what
may stand behind deleted code. -/
theorem takesAll_loosely_iff {text : Text} : Pattern.TakesAll (loosely code ++ tail) text ↔
    ∃ other behind, text = other ++ behind ∧ Relaid code other ∧ IsTail behind := by
  constructor
  · rintro ⟨last, spans, empty⟩
    obtain ⟨middle, own, further⟩ := spans_append.mp spans
    obtain ⟨other, relaid, passes⟩ :=
      exists_relaid_of_spans ((spans_mergeGaps _ _ _).mp own)
    exact ⟨other, middle.rest, passes.1, relaid, ends_tail.mp ⟨last, further, empty⟩⟩
  · rintro ⟨other, behind, rfl, relaid, isTail⟩
    have passes : Place.Passes ⟨none, other ++ behind⟩ other ⟨lastChar none other, behind⟩ :=
      ⟨rfl, rfl⟩
    obtain ⟨last, further, empty⟩ := (@ends_tail ⟨lastChar none other, behind⟩).mpr isTail
    exact ⟨last, spans_append.mpr ⟨_, (spans_mergeGaps _ _ _).mpr (relaid.spans passes), further⟩,
      empty⟩

/-- The tolerant pattern of a snippet, whose source is built from the code as text and read back
piece by piece, means the same code up to its layout: what it takes as a whole has the essence of
the code, with a semicolon behind it or not; and it takes the code in any other layout as a whole,
with a semicolon or not. Matching finds all that can be taken as a whole. -/
theorem tolerant_pattern_means_any_layout {snippet : Text} (written : snippetBody snippet ≠ []) :
    ∃ pattern, (snippetPatterns snippet)[1]? = some pattern ∧
      Reads (looseSource (snippetBody snippet) ++ tailSource) pattern ∧
      (∀ text, pattern.TakesAll text → essence text = essence (snippetBody snippet) ∨
        essence text = essence (snippetBody snippet) ++ [';']) ∧
      (∀ text, Relaid (snippetBody snippet) text →
        pattern.TakesAll text ∧ pattern.TakesAll (text ++ [';'])) ∧
      ∀ text, pattern.TakesAll text ↔
        (Pattern.match? pattern ⟨none, text⟩).map Place.rest = some [] := by
  refine ⟨loosely (snippetBody snippet) ++ tail, ?_, ?_, fun text taken => ?_,
    fun text relaid => ⟨?_, ?_⟩, fun text => takesAll_iff_match? (tight_loosely _)⟩
  · rw [snippetPatterns, if_neg (by simpa using written)]
    rfl
  · rw [looseSource_eq]
    exact reads_source (tight_loosely _) (by decide) reads_tail
  · obtain ⟨other, behind, rfl, relaid, isTail⟩ := takesAll_loosely_iff.mp taken
    rw [essence_append, relaid.essence_eq]
    rcases isTail.essence_eq with none' | semicolon
    · exact .inl (by rw [none', List.append_nil])
    · exact .inr (by rw [semicolon])
  · exact takesAll_loosely_iff.mpr ⟨text, [], (List.append_nil text).symm, relaid,
      [], [], [], .inl rfl, rfl, .inl rfl, rfl⟩
  · exact takesAll_loosely_iff.mpr ⟨text, [';'], rfl, relaid,
      [';'], [], [], .inr rfl, rfl, .inl rfl, rfl⟩

/-- A call with a text that is written like the source of a gap. -/
def gapCall : Text := "f('\\s*');".toList

/-- The call in another layout. -/
def spacedGapCall : Text := "f( \"\\s*\" )".toList

theorem relaid_gapCall : Relaid (snippetBody gapCall) spacedGapCall :=
  .same 'f' (@Relaid.bracket '(' [] [' '] _ _ (by decide) rfl (by decide) (.quote (by decide)
    (by decide) (.same '\\' (.same 's' (.same '*' (.quote (by decide) (by decide)
      (@Relaid.bracket ')' [' '] [] _ _ (by decide) (by decide) rfl .nil)))))))

/-- The call is found in another layout, though its text looks like a gap. -/
theorem tolerant_pattern_takes_gap_text :
    snippetBody gapCall ≠ [] ∧ ∃ pattern, (snippetPatterns gapCall)[1]? = some pattern ∧
      pattern.TakesAll (spacedGapCall ++ [';']) ∧
      (Pattern.match? pattern ⟨none, spacedGapCall ++ [';']⟩).map Place.rest = some [] := by
  have written : snippetBody gapCall ≠ [] := by decide
  obtain ⟨pattern, second, -, -, takes, found⟩ := tolerant_pattern_means_any_layout written
  have taken := (takes _ relaid_gapCall).2
  exact ⟨written, pattern, second, taken, (found _).mp taken⟩

end GuidedMigration.Code
