/-
This file says what patterns mean: which texts they take, in every way in which their pieces can be
read. Matching finds one of these ways. It reads as many blanks as it can and never gives one back,
and so it can miss a way; but it takes a text as a whole whenever the text can be taken as a whole,
if nothing behind a gap could itself be a blank.
-/
import GuidedMigration.Proofs.Code.PatternMatch
import GuidedMigration.Proofs.Text.SolidRows
import Mathlib.Data.List.TakeWhile

namespace GuidedMigration.Code

open Text

/-! ### Places behind texts -/

/-- Whether a place stands behind a text that begins at another place. -/
def Place.Passes (place : Place) (passed : Text) (behind : Place) : Prop :=
  place.rest = passed ++ behind.rest ∧ behind.before = lastChar place.before passed

namespace Place

variable {place middle behind : Place} {passed further : Text} {char : Char}

theorem passes_nil : place.Passes [] behind ↔ behind = place := by
  obtain ⟨before, rest⟩ := place
  obtain ⟨before', rest'⟩ := behind
  rw [Passes, List.nil_append, lastChar, mk.injEq, and_comm, @eq_comm _ rest rest']

theorem passes_append : place.Passes (passed ++ further) behind ↔
    ∃ middle, place.Passes passed middle ∧ middle.Passes further behind := by
  constructor
  · rintro ⟨rest, before⟩
    refine ⟨⟨lastChar place.before passed, further ++ behind.rest⟩, ⟨?_, rfl⟩, rfl, ?_⟩
    · rw [rest, List.append_assoc]
    · rw [before, lastChar_append]
  · rintro ⟨middle, ⟨rest, before⟩, rest', before'⟩
    refine ⟨?_, ?_⟩
    · rw [rest, rest', List.append_assoc]
    · rw [before', before, lastChar_append]

theorem next?_eq_some : place.next? = some (char, behind) ↔ place.Passes [char] behind := by
  obtain ⟨before, rest⟩ := place
  cases rest with
  | nil =>
    refine iff_of_false (fun found => by simp [next?] at found) fun passes => ?_
    simp [Passes] at passes
  | cons first rest =>
    obtain ⟨before', rest'⟩ := behind
    simp only [next?, Passes, lastChar, List.cons_append, List.nil_append, Option.some.injEq,
      Prod.mk.injEq, mk.injEq, List.cons.injEq]
    constructor
    · rintro ⟨rfl, rfl, rfl⟩
      exact ⟨⟨rfl, rfl⟩, rfl⟩
    · rintro ⟨⟨rfl, rfl⟩, rfl⟩
      exact ⟨rfl, rfl, rfl⟩

/-- Skipping passes all characters of a kind. -/
theorem passes_skip (kind : Char → Bool) (place : Place) :
    place.Passes (place.rest.takeWhile kind) (place.skip kind) := by
  rw [skip_eq]
  exact ⟨List.takeWhile_append_dropWhile.symm, rfl⟩

end Place

/-! ### What pieces and patterns take -/

/-- Whether a piece can be read from a place to another. -/
def PatternPiece.Spans (piece : PatternPiece) (place behind : Place) : Prop :=
  match piece with
  | .char wanted => place.Passes [wanted] behind
  | .oneOf chars => ∃ found ∈ chars, place.Passes [found] behind
  | .optional wanted => behind = place ∨ place.Passes [wanted] behind
  | .gap => ∃ blanks, isBlankText blanks = true ∧ place.Passes blanks behind
  | .blanks => ∃ blanks ≠ [], isBlankText blanks = true ∧ place.Passes blanks behind
  | .margin => ∃ spaces : Text, spaces.all isSpaceOrTab = true ∧ place.Passes spaces behind
  | .wordEdge => isWordEdge place.before place.rest.head? = true ∧ behind = place
  | .lineStart => place.before.all (· = '\n') = true ∧ behind = place
  | .lineEnd => place.rest.head?.all (· = '\n') = true ∧ behind = place
  | .upTo stop => ∃ passed, stop ∉ passed ∧ place.Passes passed behind

/-- Whether a pattern can be read from a place to another. -/
def Pattern.Spans : Pattern → Place → Place → Prop
  | [], place, behind => behind = place
  | piece :: rest, place, behind =>
    ∃ middle, piece.Spans place middle ∧ Pattern.Spans rest middle behind

/-- Whether a pattern can be read from a place to the end of the text. -/
def Pattern.Ends (pattern : Pattern) (place : Place) : Prop :=
  ∃ behind, pattern.Spans place behind ∧ behind.rest = []

/-- Whether a pattern can be read over a text as a whole. -/
def Pattern.TakesAll (pattern : Pattern) (text : Text) : Prop := pattern.Ends ⟨none, text⟩

variable {pattern more : Pattern} {piece : PatternPiece} {place behind : Place}
  {continue? : Place → Option Place}

theorem spans_append : Pattern.Spans (pattern ++ more) place behind ↔
    ∃ middle, pattern.Spans place middle ∧ more.Spans middle behind := by
  induction pattern generalizing place with
  | nil => simp [Pattern.Spans]
  | cons piece pattern inductionHypothesis =>
    simp only [List.cons_append, Pattern.Spans, inductionHypothesis]
    constructor
    · rintro ⟨first, own, middle, inner, outer⟩
      exact ⟨middle, ⟨first, own, inner⟩, outer⟩
    · rintro ⟨middle, ⟨first, own, inner⟩, outer⟩
      exact ⟨first, own, middle, inner, outer⟩

/-! ### Matching finds a way -/

theorem exists_of_reach? {stop : Char} {before : Option Char} {text : Text}
    (reached : reach? stop continue? before text = some behind) :
    ∃ passed middle, stop ∉ passed ∧ Place.Passes ⟨before, text⟩ passed middle ∧
      continue? middle = some behind := by
  induction text generalizing before with
  | nil => exact ⟨[], _, List.not_mem_nil, Place.passes_nil.mpr rfl, reached⟩
  | cons char text inductionHypothesis =>
    rw [reach?] at reached
    cases here : continue? ⟨before, char :: text⟩ with
    | some place =>
      rw [here] at reached
      exact ⟨[], _, List.not_mem_nil, Place.passes_nil.mpr rfl, here.trans reached⟩
    | none =>
      rw [here] at reached
      dsimp only at reached
      split at reached
      · cases reached
      · rename_i other
        obtain ⟨passed, middle, clear, passes, continues⟩ := inductionHypothesis reached
        refine ⟨char :: passed, middle, ?_, ?_, continues⟩
        · rw [List.mem_cons, not_or]
          exact ⟨Ne.symm other, clear⟩
        · exact Place.passes_append.mpr ⟨_, Place.next?_eq_some.mp rfl, passes⟩

theorem exists_of_piece_match? (matched : piece.match? continue? place = some behind) :
    ∃ middle, piece.Spans place middle ∧ continue? middle = some behind := by
  cases piece with
  | char wanted =>
    simp only [PatternPiece.match?] at matched
    split at matched
    · rename_i found middle next
      split at matched
      · rename_i same
        exact ⟨middle, same ▸ Place.next?_eq_some.mp next, matched⟩
      · cases matched
    · cases matched
  | oneOf chars =>
    simp only [PatternPiece.match?] at matched
    split at matched
    · rename_i found middle next
      split at matched
      · rename_i among
        exact ⟨middle, ⟨found, List.contains_iff_mem.mp among, Place.next?_eq_some.mp next⟩,
          matched⟩
      · cases matched
    · cases matched
  | optional wanted =>
    simp only [PatternPiece.match?] at matched
    split at matched
    · rename_i found middle next
      split at matched
      · rename_i same
        exact ⟨middle, .inr (same ▸ Place.next?_eq_some.mp next), matched⟩
      · exact ⟨place, .inl rfl, matched⟩
    · exact ⟨place, .inl rfl, matched⟩
  | gap => exact ⟨_, ⟨_, List.all_takeWhile, Place.passes_skip isBlank place⟩, matched⟩
  | blanks =>
    simp only [PatternPiece.match?] at matched
    split at matched
    · rename_i found middle next
      split at matched
      · rename_i blank
        refine ⟨_, ⟨found :: middle.rest.takeWhile isBlank, List.cons_ne_nil _ _, ?_, ?_⟩, matched⟩
        · rw [isBlankText, List.all_cons, blank]
          exact List.all_takeWhile
        · exact Place.passes_append.mpr
            ⟨middle, Place.next?_eq_some.mp next, Place.passes_skip isBlank middle⟩
      · cases matched
    · cases matched
  | margin => exact ⟨_, ⟨_, List.all_takeWhile, Place.passes_skip isSpaceOrTab place⟩, matched⟩
  | wordEdge =>
    simp only [PatternPiece.match?] at matched
    split at matched
    · exact ⟨place, ⟨by assumption, rfl⟩, matched⟩
    · cases matched
  | lineStart =>
    simp only [PatternPiece.match?] at matched
    split at matched
    · exact ⟨place, ⟨by assumption, rfl⟩, matched⟩
    · cases matched
  | lineEnd =>
    simp only [PatternPiece.match?] at matched
    split at matched
    · exact ⟨place, ⟨by assumption, rfl⟩, matched⟩
    · cases matched
  | upTo stop =>
    obtain ⟨passed, middle, clear, passes, continues⟩ := exists_of_reach? matched
    exact ⟨middle, ⟨passed, clear, passes⟩, continues⟩

/-- What is matched can be read. -/
theorem spans_of_match? (matched : Pattern.match? pattern place = some behind) :
    pattern.Spans place behind := by
  induction pattern generalizing place with
  | nil => exact (Option.some.inj matched).symm
  | cons piece pattern inductionHypothesis =>
    obtain ⟨middle, own, continues⟩ := exists_of_piece_match? matched
    exact ⟨middle, own, inductionHypothesis continues⟩

/-! ### What may stand behind deleted code -/

/-- Whether a text is what may stand behind deleted code: a semicolon, spaces and tabs and a
newline, each of them or not. -/
def IsTail (text : Text) : Prop :=
  ∃ semicolon spaces newline, (semicolon = [] ∨ semicolon = [';']) ∧
    spaces.all isSpaceOrTab = true ∧ (newline = [] ∨ newline = ['\n']) ∧
    text = semicolon ++ (spaces ++ newline)

variable {text : Text}

theorem spans_optional {wanted : Char} : (PatternPiece.optional wanted).Spans place behind ↔
    ∃ passed, (passed = [] ∨ passed = [wanted]) ∧ place.Passes passed behind := by
  constructor
  · rintro (rfl | passes)
    · exact ⟨[], .inl rfl, Place.passes_nil.mpr rfl⟩
    · exact ⟨_, .inr rfl, passes⟩
  · rintro ⟨passed, rfl | rfl, passes⟩
    · exact .inl (Place.passes_nil.mp passes)
    · exact .inr passes

theorem ends_tail : Pattern.Ends tail place ↔ IsTail place.rest := by
  constructor
  · rintro ⟨last, ⟨first, semicolon, second, ⟨spaces, blank, passes⟩, behind, newline, rfl⟩, empty⟩
    obtain ⟨mark, isMark, marks⟩ := spans_optional.mp semicolon
    obtain ⟨line, isLine, lines⟩ := spans_optional.mp newline
    refine ⟨mark, spaces, line, isMark, blank, isLine, ?_⟩
    rw [marks.1, passes.1, lines.1, empty, List.append_nil]
  · rintro ⟨mark, spaces, line, isMark, blank, isLine, cut⟩
    have whole : place.Passes (mark ++ (spaces ++ line))
        ⟨lastChar place.before (mark ++ (spaces ++ line)), []⟩ :=
      ⟨by rw [cut, List.append_nil], rfl⟩
    obtain ⟨first, marks, further⟩ := Place.passes_append.mp whole
    obtain ⟨second, passes, lines⟩ := Place.passes_append.mp further
    exact ⟨_, ⟨first, spans_optional.mpr ⟨mark, isMark, marks⟩, second, ⟨spaces, blank, passes⟩, _,
      spans_optional.mpr ⟨line, isLine, lines⟩, rfl⟩, rfl⟩

theorem not_isBlank_semicolon : isBlank ';' = false := by decide

/-- Of what may stand behind code, nothing is left if it is dropped. -/
theorem IsTail.dropTail_eq (isTail : IsTail text) : dropTail text = [] := by
  obtain ⟨mark, spaces, line, isMark, blank, isLine, rfl⟩ := isTail
  have dropped : dropOptional ';' (mark ++ (spaces ++ line)) = spaces ++ line := by
    rcases isMark with rfl | rfl
    · cases spaces with
      | nil => rcases isLine with rfl | rfl <;> rfl
      | cons space spaces =>
        have other : space ≠ ';' := by
          rintro rfl
          simp [isSpaceOrTab] at blank
        exact if_neg other
    · rfl
  rw [dropTail, dropped, List.dropWhile_append_of_pos (List.all_eq_true.mp blank)]
  rcases isLine with rfl | rfl <;> rfl

/-- Without the blanks in front of it, it is something that may stand behind code. -/
theorem IsTail.dropWhile (isTail : IsTail text) : IsTail (text.dropWhile isBlank) := by
  obtain ⟨mark, spaces, line, isMark, blank, isLine, rfl⟩ := isTail
  rcases isMark with rfl | rfl
  · have all (char : Char) (member : char ∈ spaces ++ line) : isBlank char = true := by
      rcases List.mem_append.mp member with space | newline
      · exact isBlank_of_isSpaceOrTab (List.all_eq_true.mp blank char space)
      · rcases isLine with rfl | rfl
        · cases newline
        · exact List.mem_singleton.mp newline ▸ by decide
    rw [List.nil_append, List.dropWhile_eq_nil_iff.mpr all]
    exact ⟨[], [], [], .inl rfl, rfl, .inl rfl, rfl⟩
  · rw [List.cons_append, List.dropWhile_cons_of_neg (by simp [not_isBlank_semicolon])]
    exact ⟨[';'], spaces, line, .inr rfl, blank, isLine, rfl⟩

/-! ### Matching takes a text as a whole -/

/-- Whether a piece is a gap, a quote, or another character that is no blank. -/
inductive PatternPiece.Tight : PatternPiece → Prop
  | gap : Tight .gap
  | quote : Tight (.oneOf quotes)
  | char {wanted : Char} (solid : isBlank wanted = false) : Tight (.char wanted)

theorem not_isBlank_of_mem_quotes {char : Char} (among : char ∈ quotes) : isBlank char = false := by
  simp only [quotes, List.mem_cons, List.not_mem_nil, or_false] at among
  rcases among with rfl | rfl | rfl <;> decide

theorem Place.skip_of_passes {middle : Place} {blanks : Text} (blank : isBlankText blanks = true)
    (passes : place.Passes blanks middle) : place.skip isBlank = middle.skip isBlank := by
  have all := List.all_eq_true.mp blank
  rw [skip_eq, skip_eq, passes.1, passes.2, List.takeWhile_append_of_pos all,
    List.dropWhile_append_of_pos all, lastChar_append]

theorem Place.skip_of_solid {char : Char} (solid : isBlank char = false)
    (passes : place.Passes [char] behind) : place.skip isBlank = place := by
  have rest : place.rest = char :: behind.rest := passes.1
  rw [skip_eq, rest, List.takeWhile_cons_of_neg (by simp [solid]),
    List.dropWhile_cons_of_neg (by simp [solid]), ← rest]
  rfl

/-- A pattern of tight pieces takes a rest of a text without the blanks in front of it. -/
theorem ends_skip (tight : ∀ piece ∈ pattern, piece.Tight)
    (ends : Pattern.Ends (pattern ++ tail) place) :
    Pattern.Ends (pattern ++ tail) (place.skip isBlank) := by
  induction pattern generalizing place with
  | nil =>
    rw [List.nil_append] at ends ⊢
    rw [ends_tail, Place.skip_eq]
    exact (ends_tail.mp ends).dropWhile
  | cons piece pattern inductionHypothesis =>
    obtain ⟨last, ⟨middle, own, further⟩, empty⟩ := ends
    cases tight piece List.mem_cons_self with
    | gap =>
      obtain ⟨blanks, blank, passes⟩ := own
      obtain ⟨last, further, empty⟩ := inductionHypothesis
        (fun other member => tight other (List.mem_cons_of_mem _ member)) ⟨last, further, empty⟩
      rw [← Place.skip_of_passes blank passes] at further
      exact ⟨last, ⟨_, ⟨[], rfl, Place.passes_nil.mpr rfl⟩, further⟩, empty⟩
    | char solid =>
      rw [Place.skip_of_solid solid own]
      exact ⟨last, ⟨middle, own, further⟩, empty⟩
    | quote =>
      obtain ⟨found, among, passes⟩ := own
      rw [Place.skip_of_solid (not_isBlank_of_mem_quotes among) passes]
      exact ⟨last, ⟨middle, ⟨found, among, passes⟩, further⟩, empty⟩

/-- A pattern of tight pieces is matched up to the end of a text if it can be read up to there. The
blanks that a gap takes too many are none that a later piece would need. -/
theorem match?_of_ends (tight : ∀ piece ∈ pattern, piece.Tight)
    (ends : Pattern.Ends (pattern ++ tail) place) :
    (Pattern.match? (pattern ++ tail) place).map Place.rest = some [] := by
  induction pattern generalizing place with
  | nil =>
    obtain ⟨before, rest⟩ := place
    rw [List.nil_append, match?_tail, (ends_tail.mp ends).dropTail_eq]
  | cons piece pattern inductionHypothesis =>
    have others : ∀ piece ∈ pattern, piece.Tight :=
      fun other member => tight other (List.mem_cons_of_mem _ member)
    obtain ⟨last, ⟨middle, own, further⟩, empty⟩ := ends
    have matched := inductionHypothesis others ⟨last, further, empty⟩
    rw [List.cons_append, Pattern.match?]
    cases tight piece List.mem_cons_self with
    | gap =>
      obtain ⟨blanks, blank, passes⟩ := own
      refine inductionHypothesis others ?_
      rw [Place.skip_of_passes blank passes]
      exact ends_skip others ⟨last, further, empty⟩
    | char solid =>
      rw [PatternPiece.match?, Place.next?_eq_some.mpr own]
      dsimp only
      rwa [if_pos rfl]
    | quote =>
      obtain ⟨found, among, passes⟩ := own
      rw [PatternPiece.match?, Place.next?_eq_some.mpr passes]
      dsimp only
      rwa [if_pos (List.contains_iff_mem.mpr among)]

theorem takesAll_iff_match? (tight : ∀ piece ∈ pattern, piece.Tight) :
    Pattern.TakesAll (pattern ++ tail) text ↔
      (Pattern.match? (pattern ++ tail) ⟨none, text⟩).map Place.rest = some [] := by
  refine ⟨match?_of_ends tight, fun matched => ?_⟩
  obtain ⟨behind, found, empty⟩ := Option.map_eq_some_iff.mp matched
  exact ⟨behind, spans_of_match? found, empty⟩

end GuidedMigration.Code
