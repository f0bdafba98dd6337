/-
This file builds the source of the tolerant pattern of a snippet as text, character by character,
and shows that it is the source of the pattern that is matched, piece by piece. Two things have to
go right: runs of gaps are shortened in the text, where a literal must not look like a gap, and the
pieces must be told apart again when the source is read. Both rest on the escapes: a star stands
behind an `s` only in the source of a gap, because a literal star is escaped.
-/
import GuidedMigration.Proofs.Code.PatternMeaning

namespace GuidedMigration.Code

open Text

/-! ### Writing the source -/

/-- Whether a character is escaped in a source. -/
def isEscaped (char : Char) : Bool :=
  "()[]\x7b\x7d?*+-|^$\\.&~# \t\n\r\x0b\x0c".toList.contains char

/-- The source of a character. -/
def literalSource (char : Char) : Text := if isEscaped char then ['\\', char] else [char]

/-- The source of a gap. -/
def gapSource : Text := ['\\', 's', '*']

/-- The source of a piece. -/
def PatternPiece.source : PatternPiece → Text
  | .char wanted => literalSource wanted
  | .oneOf chars => ['['] ++ chars ++ [']']
  | .optional wanted => (if wanted = '\n' then ['\\', 'n'] else literalSource wanted) ++ ['?']
  | .gap => gapSource
  | .blanks => ['\\', 's', '+']
  | .margin => "[ \\t]*".toList
  | .wordEdge => ['\\', 'b']
  | .lineStart => ['^']
  | .lineEnd => ['$']
  | .upTo stop => "[^".toList ++ [stop] ++ "]*?".toList

/-- The source of a pattern. -/
def Pattern.source (pattern : Pattern) : Text := pattern.flatMap PatternPiece.source

/-- The source of a pattern with one more character of code. No gap is added behind a gap. -/
def addSource (source : Text) (char : Char) : Text :=
  if quotes.contains char then source ++ (PatternPiece.oneOf quotes).source
  else if isBlank char then
    if endsWith gapSource source then source else source ++ gapSource
  else if isLoose char then source ++ gapSource ++ literalSource char ++ gapSource
  else source ++ literalSource char

/-- A source in which every run of two or more gaps is one gap. -/
def collapseGaps : Text → Text
  | [] => []
  | '\\' :: 's' :: '*' :: rest =>
    if startsWith gapSource rest then collapseGaps rest else gapSource ++ collapseGaps rest
  | char :: rest => char :: collapseGaps rest

/-- The source of the tolerant pattern of code, without what may stand behind the code. -/
def looseSource (code : Text) : Text := collapseGaps (code.foldl addSource [])

/-- The source of what may stand behind the code. -/
def tailSource : Text := ";?[ \\t]*\\n?".toList

variable {pattern : Pattern} {piece : PatternPiece} {char : Char} {rest : Text}

theorem source_append (left right : Pattern) :
    Pattern.source (left ++ right) = left.source ++ right.source :=
  List.flatMap_append

/-! ### Gaps in the source -/

/-- The source of a tight piece begins with a backslash, a bracket or a literal, never with a
star. -/
theorem head_source (tight : piece.Tight) : ∃ first more, piece.source = first :: more ∧
    first ≠ '*' ∧ first ≠ '?' ∧ (first = '\\' ∨ first = '[' ∨ piece = .char first) := by
  cases tight with
  | gap => exact ⟨'\\', _, rfl, by decide, by decide, .inl rfl⟩
  | quote => exact ⟨'[', _, rfl, by decide, by decide, .inr (.inl rfl)⟩
  | @char wanted solid =>
    rw [PatternPiece.source, literalSource]
    split
    · exact ⟨'\\', _, rfl, by decide, by decide, .inl rfl⟩
    · rename_i plain
      refine ⟨wanted, [], rfl, ?_, ?_, .inr (.inr rfl)⟩ <;>
        · rintro rfl
          exact plain (by decide)

theorem startsWith_cons_cons {first other : Char} {start text : Text} :
    startsWith (first :: start) (other :: text) = (first = other && startsWith start text) := by
  rw [startsWith, dropPrefix?]
  by_cases same : first = other
  · simp [same, startsWith]
  · simp [same]

/-- No source of tight pieces begins with a character that would belong to the piece before it. -/
theorem startsWith_source {mark : Char} {behind : Text} (alien : mark = '*' ∨ mark = '?')
    (tight : ∀ piece ∈ pattern, piece.Tight) (clear : startsWith [mark] behind = false) :
    startsWith [mark] (Pattern.source pattern ++ behind) = false := by
  cases pattern with
  | nil => exact clear
  | cons piece pattern =>
    obtain ⟨first, more, source, noStar, noQuestion, -⟩ :=
      head_source (tight piece List.mem_cons_self)
    rw [Pattern.source, List.flatMap_cons, source, List.cons_append, List.cons_append,
      startsWith_cons_cons]
    have other : mark ≠ first := by
      rintro rfl
      exact alien.elim noStar noQuestion
    rw [decide_eq_false other, Bool.false_and]

/-- Behind an `s` at its start, a source of tight pieces has no star. -/
theorem not_startsWith_star (tight : ∀ piece ∈ pattern, piece.Tight) :
    startsWith ['s', '*'] (Pattern.source pattern) = false := by
  cases pattern with
  | nil => rfl
  | cons piece pattern =>
    have others : ∀ piece ∈ pattern, piece.Tight :=
      fun other member => tight other (List.mem_cons_of_mem _ member)
    obtain ⟨first, more, source, -, -, head⟩ := head_source (tight piece List.mem_cons_self)
    rw [Pattern.source, List.flatMap_cons, source, List.cons_append, startsWith_cons_cons]
    rcases head with rfl | rfl | rfl
    · rfl
    · rfl
    · by_cases same : 's' = first
      · rw [← same] at source
        have single : more = [] := (List.cons.inj source).2.symm
        have noStar := @startsWith_source _ '*' [] (.inl rfl) others rfl
        rw [List.append_nil] at noStar
        rw [single, List.nil_append, ← Pattern.source, noStar, Bool.and_false]
      · rw [decide_eq_false same, Bool.false_and]

/-- The source of tight pieces begins with a gap just if the first piece is one. -/
theorem startsWith_gapSource (tight : ∀ piece ∈ pattern, piece.Tight) :
    startsWith gapSource (Pattern.source pattern) = true ↔ pattern.head? = some .gap := by
  cases pattern with
  | nil => exact iff_of_false (by decide) (by simp)
  | cons piece pattern =>
    rw [Pattern.source, List.flatMap_cons, List.head?_cons, Option.some.injEq]
    cases tight piece List.mem_cons_self with
    | gap => exact iff_of_true rfl rfl
    | quote => exact iff_of_false Bool.false_ne_true (by simp)
    | @char wanted solid =>
      refine iff_of_false ?_ (by simp)
      rw [PatternPiece.source, literalSource, gapSource]
      split
      · rename_i special
        have other : 's' ≠ wanted := by
          rintro rfl
          exact absurd special (by decide)
        simp [startsWith_cons_cons, other]
      · rename_i plain
        have other : '\\' ≠ wanted := by
          rintro rfl
          exact plain (by decide)
        simp [startsWith_cons_cons, other]

/-! ### Merging gaps in the source -/

theorem mergeGaps_cons (other : piece ≠ .gap) (pattern : Pattern) :
    mergeGaps (piece :: pattern) = piece :: mergeGaps pattern := by
  cases piece with
  | gap => exact absurd rfl other
  | _ => rfl

theorem head?_mergeGaps (pattern : Pattern) : (mergeGaps pattern).head? = pattern.head? := by
  cases pattern with
  | nil => rfl
  | cons piece pattern =>
    by_cases same : piece = .gap
    · rw [same, mergeGaps]
      split <;> rfl
    · rw [mergeGaps_cons same]
      rfl

theorem mergeGaps_gap_of_gap (begins : pattern.head? = some .gap) :
    mergeGaps (.gap :: pattern) = mergeGaps pattern := by
  obtain ⟨more, merged⟩ := List.head?_eq_some_iff.mp ((head?_mergeGaps pattern).trans begins)
  rw [mergeGaps, merged]

theorem mergeGaps_gap_of_other (begins : pattern.head? ≠ some .gap) :
    mergeGaps (.gap :: pattern) = .gap :: mergeGaps pattern := by
  rw [mergeGaps]
  split
  · rename_i more merged
    exact absurd ((head?_mergeGaps pattern).symm.trans (merged ▸ rfl)) begins
  · rfl

theorem collapseGaps_cons (noGap : startsWith gapSource (char :: rest) = false) :
    collapseGaps (char :: rest) = char :: collapseGaps rest := by
  rw [collapseGaps]
  rintro more rfl rfl
  exact Bool.false_ne_true (noGap.symm.trans rfl)

theorem collapseGaps_literal (tight : ∀ piece ∈ pattern, piece.Tight) (wanted : Char) :
    collapseGaps (literalSource wanted ++ pattern.source) =
      literalSource wanted ++ collapseGaps pattern.source := by
  rw [literalSource]
  split
  · rename_i special
    have other : 's' ≠ wanted := by
      rintro rfl
      exact absurd special (by decide)
    have outer : startsWith gapSource ('\\' :: wanted :: pattern.source) = false := by
      simp [gapSource, startsWith_cons_cons, other]
    have inner : startsWith gapSource (wanted :: pattern.source) = false := by
      rw [gapSource, startsWith_cons_cons, not_startsWith_star tight, Bool.and_false]
    show collapseGaps ('\\' :: wanted :: pattern.source) = _
    rw [collapseGaps_cons outer, collapseGaps_cons inner]
    rfl
  · rename_i plain
    have other : '\\' ≠ wanted := by
      rintro rfl
      exact plain (by decide)
    have noGap : startsWith gapSource (wanted :: pattern.source) = false := by
      simp [gapSource, startsWith_cons_cons, other]
    exact collapseGaps_cons noGap

/-- Shortening the runs of gaps in the source is merging the gaps of the pattern. -/
theorem collapseGaps_source (tight : ∀ piece ∈ pattern, piece.Tight) :
    collapseGaps (Pattern.source pattern) = Pattern.source (mergeGaps pattern) := by
  induction pattern with
  | nil => rfl
  | cons piece pattern inductionHypothesis =>
    have others : ∀ piece ∈ pattern, piece.Tight :=
      fun other member => tight other (List.mem_cons_of_mem _ member)
    have further := inductionHypothesis others
    have cut : Pattern.source (piece :: pattern) = piece.source ++ Pattern.source pattern :=
      List.flatMap_cons
    rw [cut]
    cases tight piece List.mem_cons_self with
    | gap =>
      show (if startsWith gapSource (Pattern.source pattern)
        then collapseGaps (Pattern.source pattern)
        else gapSource ++ collapseGaps (Pattern.source pattern)) = _
      by_cases begins : pattern.head? = some .gap
      · rw [if_pos ((startsWith_gapSource others).mpr begins), mergeGaps_gap_of_gap begins, further]
      · rw [if_neg (fun starts => begins ((startsWith_gapSource others).mp starts)),
          mergeGaps_gap_of_other begins, further]
        rfl
    | quote =>
      rw [mergeGaps_cons (by simp)]
      exact congrArg ((PatternPiece.oneOf quotes).source ++ ·) further
    | char solid =>
      rw [mergeGaps_cons (by simp)]
      show collapseGaps (literalSource _ ++ Pattern.source pattern) = _
      rw [collapseGaps_literal others, further]
      rfl

/-! ### The source of a snippet -/

theorem mergeGaps_append_congr (front : Pattern) {left right : Pattern}
    (same : mergeGaps left = mergeGaps right) :
    mergeGaps (front ++ left) = mergeGaps (front ++ right) := by
  induction front with
  | nil => exact same
  | cons piece front inductionHypothesis =>
    by_cases isGap : piece = .gap
    · rw [isGap, List.cons_append, List.cons_append, mergeGaps, mergeGaps, inductionHypothesis]
    · rw [List.cons_append, List.cons_append, mergeGaps_cons isGap, mergeGaps_cons isGap,
        inductionHypothesis]

/-- A source of tight pieces ends in a gap only if the last piece is one. -/
theorem getLast?_of_endsWith (tight : ∀ piece ∈ pattern, piece.Tight)
    (ends : endsWith gapSource (Pattern.source pattern) = true) : pattern.getLast? = some .gap := by
  rcases List.eq_nil_or_concat pattern with rfl | ⟨front, last, rfl⟩
  · exact absurd ends (by decide)
  · rw [List.concat_eq_append] at tight ends ⊢
    have cut : Pattern.source (front ++ [last]) = Pattern.source front ++ last.source := by
      rw [source_append, Pattern.source, Pattern.source, List.flatMap_singleton]
    rw [endsWith, cut, List.reverse_append] at ends
    cases tight last (by simp) with
    | gap => rw [List.getLast?_concat]
    | quote => exact absurd ends (by simp [PatternPiece.source, gapSource, startsWith_cons_cons])
    | @char wanted solid =>
      rw [PatternPiece.source, literalSource] at ends
      split at ends
      · simp [gapSource, startsWith_cons_cons] at ends
      · rename_i plain
        have other : '*' ≠ wanted := by
          rintro rfl
          exact plain (by decide)
        simp [gapSource, startsWith_cons_cons, other] at ends

theorem tight_loosePieces (char : Char) : ∀ piece ∈ loosePieces char, piece.Tight := by
  rw [loosePieces]
  split
  · exact fun piece member => List.mem_singleton.mp member ▸ .quote
  · split
    · exact fun piece member => List.mem_singleton.mp member ▸ .gap
    · rename_i solid
      have own := PatternPiece.Tight.char (Bool.eq_false_iff.mpr solid)
      split
      · intro piece member
        simp only [List.mem_cons, List.not_mem_nil, or_false] at member
        rcases member with rfl | rfl | rfl
        · exact .gap
        · exact own
        · exact .gap
      · exact fun piece member => List.mem_singleton.mp member ▸ own

/-- What a character adds to the source is the source of its pieces, but for a gap behind a gap. -/
theorem exists_addSource (tight : ∀ piece ∈ pattern, piece.Tight) (char : Char) :
    ∃ longer, (∀ piece ∈ longer, piece.Tight) ∧
      addSource (Pattern.source pattern) char = Pattern.source longer ∧
      ∀ more, mergeGaps (longer ++ more) = mergeGaps (pattern ++ (loosePieces char ++ more)) := by
  have grown (piece : PatternPiece) (member : piece ∈ pattern ++ loosePieces char) : piece.Tight :=
    (List.mem_append.mp member).elim (tight piece) (tight_loosePieces char piece)
  by_cases extra : !quotes.contains char && isBlank char && endsWith gapSource pattern.source
  · simp only [Bool.and_eq_true, Bool.not_eq_true'] at extra
    obtain ⟨⟨noQuote, blank⟩, ends⟩ := extra
    obtain ⟨front, rfl⟩ := List.getLast?_eq_some_iff.mp (getLast?_of_endsWith tight ends)
    refine ⟨_, tight, ?_, fun more => ?_⟩
    · rw [addSource, noQuote, blank, ends]
      rfl
    · rw [loosePieces, noQuote, blank, List.append_assoc, List.append_assoc]
      exact mergeGaps_append_congr front (mergeGaps_gap_of_gap rfl).symm
  · refine ⟨_, grown, ?_, fun more => by rw [List.append_assoc]⟩
    rw [source_append, addSource, loosePieces]
    split
    · rfl
    · split
      · rename_i noQuote blank
        have others : quotes.contains char = false := Bool.eq_false_iff.mpr noQuote
        rw [if_neg (fun ends => extra (by rw [others, blank, ends]; rfl))]
        rfl
      · split
        · simp [Pattern.source, PatternPiece.source]
        · simp [Pattern.source, PatternPiece.source]

/-- The source that is built for code is that of its pattern, whatever characters the code has. -/
theorem looseSource_eq (code : Text) : looseSource code = Pattern.source (loosely code) := by
  have built {pattern : Pattern} (tight : ∀ piece ∈ pattern, piece.Tight) :
      ∃ longer, (∀ piece ∈ longer, piece.Tight) ∧
        code.foldl addSource (Pattern.source pattern) = Pattern.source longer ∧
        mergeGaps longer = mergeGaps (pattern ++ code.flatMap loosePieces) := by
    induction code generalizing pattern with
    | nil => exact ⟨pattern, tight, rfl, by rw [List.flatMap_nil, List.append_nil]⟩
    | cons char code inductionHypothesis =>
      obtain ⟨middle, tight, added, merged⟩ := exists_addSource tight char
      obtain ⟨longer, tight, folded, same⟩ := inductionHypothesis tight
      refine ⟨longer, tight, ?_, ?_⟩
      · rw [List.foldl_cons, added, folded]
      · rw [same, merged, List.flatMap_cons]
  obtain ⟨longer, tight, folded, merged⟩ :=
    @built [] (fun _ member => absurd member List.not_mem_nil)
  rw [looseSource, loosely, ← List.nil_append (code.flatMap loosePieces), ← merged,
    ← collapseGaps_source tight, ← folded]
  rfl

/-! ### Reading the source -/

/-- The pieces that have a mark of their own in the source of a snippet. -/
def marked : List PatternPiece :=
  [.gap, .oneOf quotes, .optional ';', .margin, .optional '\n']

/-- The first piece of a source and what is behind it: a piece with a mark of its own, an escaped
character, or a character that need not be escaped. -/
def readPiece? (source : Text) : Option (PatternPiece × Text) :=
  match marked.findSome? fun piece => (dropPrefix? piece.source source).map (piece, ·) with
  | some found => some found
  | none => match source with
    | [] => none
    | '\\' :: char :: rest => if isAsciiAlnum char then none else some (.char char, rest)
    | char :: rest => if isEscaped char then none else some (.char char, rest)

/-- Whether a source is read as a pattern, piece by piece up to its end. -/
inductive Reads : Text → Pattern → Prop
  | nil : Reads [] []
  | cons {source rest : Text} {piece : PatternPiece} {pattern : Pattern}
      (first : readPiece? source = some (piece, rest)) (others : Reads rest pattern) :
      Reads source (piece :: pattern)

theorem reads_tail : Reads tailSource tail :=
  .cons rfl (.cons rfl (.cons rfl .nil))

theorem ne_of_isEscaped {wanted other : Char} (special : isEscaped wanted = true)
    (plain : isEscaped other = false) : other ≠ wanted := by
  rintro rfl
  exact Bool.false_ne_true (plain.symm.trans special)

theorem not_isAsciiAlnum_of_isEscaped {wanted : Char} (special : isEscaped wanted = true) :
    isAsciiAlnum wanted = false := by
  have others : "()[]\x7b\x7d?*+-|^$\\.&~# \t\n\r\x0b\x0c".toList.all (!isAsciiAlnum ·) = true := by
    decide
  simpa using List.all_eq_true.mp others wanted (List.contains_iff_mem.mp special)

/-- A tight piece is read from its source, unless a question mark behind it changes its meaning. -/
theorem readPiece?_source (tight : piece.Tight) (clear : startsWith ['?'] rest = false) :
    readPiece? (piece.source ++ rest) = some (piece, rest) := by
  cases tight with
  | gap => rfl
  | quote => rfl
  | @char wanted solid =>
    rw [PatternPiece.source, literalSource]
    split
    · rename_i special
      have notS : 's' ≠ wanted := ne_of_isEscaped special (by decide)
      have notN : 'n' ≠ wanted := ne_of_isEscaped special (by decide)
      have unmarked : (marked.findSome? fun piece =>
          (dropPrefix? piece.source ('\\' :: wanted :: rest)).map (piece, ·)) = none := by
        simp [marked, PatternPiece.source, gapSource, literalSource, isEscaped, dropPrefix?, notS,
          notN]
      show readPiece? ('\\' :: wanted :: rest) = _
      rw [readPiece?, unmarked]
      exact if_neg (by rw [not_isAsciiAlnum_of_isEscaped special]; exact Bool.false_ne_true)
    · rename_i plain
      have other {special : Char} (escaped : isEscaped special = true) : special ≠ wanted :=
        fun same => plain (same ▸ escaped)
      have notBackslash := @other '\\' (by decide)
      have notBracket := @other '[' (by decide)
      have noMark : dropPrefix? ['?'] rest = none := by
        simpa [startsWith] using clear
      have unmarked : (marked.findSome? fun piece =>
          (dropPrefix? piece.source (wanted :: rest)).map (piece, ·)) = none := by
        simp [marked, PatternPiece.source, gapSource, literalSource, isEscaped, dropPrefix?,
          notBackslash, notBracket, noMark]
      show readPiece? (wanted :: rest) = _
      rw [readPiece?, unmarked]
      · exact if_neg plain
      · exact fun _ _ same => absurd same.symm notBackslash

/-- The source of tight pieces is read as these pieces. -/
theorem reads_source (tight : ∀ piece ∈ pattern, piece.Tight) {behind : Text} {more : Pattern}
    (clear : startsWith ['?'] behind = false) (reads : Reads behind more) :
    Reads (Pattern.source pattern ++ behind) (pattern ++ more) := by
  induction pattern with
  | nil => exact reads
  | cons piece pattern inductionHypothesis =>
    have others : ∀ piece ∈ pattern, piece.Tight :=
      fun other member => tight other (List.mem_cons_of_mem _ member)
    rw [Pattern.source, List.flatMap_cons, List.append_assoc]
    exact .cons (readPiece?_source (tight piece List.mem_cons_self)
      (startsWith_source (.inr rfl) others clear))
      (inductionHypothesis others)

end GuidedMigration.Code
