/-
This file inserts import statements one after the other. What is inserted ends the block of imports
anew, so that the next one goes right behind it, and all that are inserted stand there in their
order. A statement that is held when its turn comes is held at the end as well, unless it lies
across the end of the block, where others are put into it. Such a statement has a row in front of
its last one that ends in a quote.
-/
import GuidedMigration.Proofs.Code.Insertion
import GuidedMigration.Proofs.Code.ImportScan

namespace GuidedMigration.Code

open Text

variable {content wider fragment : Text} {rows above block below : List Text}

/-! ### Statements as they are written -/

/-- The rows of a fragment, without the empty ones around it. -/
def fragmentRows (fragment : Text) : List Text := splitOn '\n' (trimWhile (· = '\n') fragment)

/-- A fragment is written without some of the blanks in front of its rows. -/
theorem exists_rendered (fragment : Text) :
    ∃ bare : Text → Text, rendered fragment [] = (fragmentRows fragment).map bare ∧
      ∀ row ∈ fragmentRows fragment, ∃ blanks,
        isBlankText blanks = true ∧ row = blanks ++ bare row := by
  obtain ⟨bare, dedented, margins⟩ := exists_dedentLines (fragmentRows fragment)
  refine ⟨fun row => if isBlankText (bare row) then [] else bare row, ?_, fun row member => ?_⟩
  · rw [rendered, splitOn_dedent, ← fragmentRows, dedented, List.map_map]
    rfl
  · obtain ⟨blanks, blank, cut⟩ := margins row member
    dsimp only
    by_cases blankRow : isBlankText (bare row) = true
    · rw [if_pos blankRow]
      exact ⟨row, by rw [cut, isBlankText_append, blank, blankRow]; rfl, (List.append_nil row).symm⟩
    · rw [if_neg blankRow]
      exact ⟨blanks, blank, cut⟩

/-- Rows without some of the blanks in front of them are a statement as the rows are. -/
theorem IsImport.map {bare : Text → Text} (formed : IsImport rows)
    (margins : ∀ row ∈ rows, ∃ blanks, isBlankText blanks = true ∧ row = blanks ++ bare row) :
    IsImport (rows.map bare) := by
  have starts {row : Text} (member : row ∈ rows) : startsImport (bare row) = startsImport row := by
    obtain ⟨blanks, blank, cut⟩ := margins row member
    conv => rhs; rw [cut, startsImport_indented blank]
  have ends {row : Text} (member : row ∈ rows) : endsImport (bare row) = endsImport row := by
    obtain ⟨blanks, blank, cut⟩ := margins row member
    conv => rhs; rw [cut, endsImport_indented blank]
  obtain ⟨begins, goesOn, ends'⟩ := formed
  refine ⟨?_, ?_, ?_⟩
  · cases rows with
    | nil => exact begins
    | cons row rows =>
      rw [List.head?_cons, Option.any_some] at begins
      rw [List.map_cons, List.head?_cons, Option.any_some, starts List.mem_cons_self, begins]
  · rw [← List.map_dropLast, List.forall_mem_map]
    intro row member
    rw [ends (List.dropLast_subset rows member), goesOn row member]
  · rcases List.eq_nil_or_concat rows with rfl | ⟨upper, last, rfl⟩
    · exact ends'
    · rw [List.concat_eq_append, List.getLast?_concat, Option.any_some] at ends'
      rw [List.concat_eq_append, List.map_append, List.map_singleton, List.getLast?_concat,
        Option.any_some, ends (by simp), ends']

theorem IsImport.rendered (formed : IsImport (fragmentRows fragment)) :
    IsImport (rendered fragment []) := by
  obtain ⟨bare, written, margins⟩ := exists_rendered fragment
  rw [written]
  exact formed.map margins

/-! ### Quotes at the end -/

/-- The last character of a text but for blanks and semicolons. -/
def lastMark? (text : Text) : Option Char := (text.filter (!isEnding ·)).getLast?

theorem lastMark?_append (left right : Text) :
    lastMark? (left ++ right) = (lastMark? right).or (lastMark? left) := by
  rw [lastMark?, List.filter_append, List.getLast?_append, lastMark?, lastMark?]

/-- A row that ends a statement ends in a quote. -/
theorem exists_lastMark? {row : Text} (ends : endsImport row = true) :
    ∃ quote, lastMark? row = some quote ∧ isQuote quote = true := by
  obtain ⟨lead, quote, tail, rfl, quoted, ending⟩ := exists_quote_of_endsImport ends
  refine ⟨quote, ?_, quoted⟩
  have silent : tail.filter (!isEnding ·) = [] :=
    List.filter_eq_nil_iff.mpr fun char member => by
      simp [List.all_eq_true.mp ending char member]
  have kept : (!isEnding quote) = true := by
    rw [isQuote, Bool.or_eq_true, decide_eq_true_eq, decide_eq_true_eq] at quoted
    rcases quoted with rfl | rfl <;> decide
  rw [lastMark?, List.filter_append, @List.filter_cons_of_pos _ (!isEnding ·) quote tail kept,
    silent, List.getLast?_concat]

theorem isEnding_of_isBlank {char : Char} (blank : isBlank char = true) : isEnding char = true := by
  rw [isEnding, blank, Bool.true_or]

theorem lastMark?_solidRows (text : Text) :
    lastMark? (solidRows text).flatten = lastMark? text := by
  rw [lastMark?, filter_solidRows fun char blank => by rw [isEnding_of_isBlank blank]; rfl,
    lastMark?]

/-- The last mark of rows is that of one of them. -/
theorem exists_of_lastMark?_flatten {mark : Char} (last : lastMark? rows.flatten = some mark) :
    ∃ row ∈ rows, lastMark? row = some mark := by
  induction rows with
  | nil => simp [lastMark?] at last
  | cons row rows inductionHypothesis =>
    rw [List.flatten_cons, lastMark?_append, Option.or_eq_some_iff] at last
    rcases last with behind | ⟨-, here⟩
    · obtain ⟨other, member, found⟩ := inductionHypothesis behind
      exact ⟨other, List.mem_cons_of_mem row member, found⟩
    · exact ⟨row, List.mem_cons_self, here⟩

/-! ### Statements across the end of the block -/

/-- Whether no solid row of a fragment but the last one ends in a quote, but for blanks and
semicolons. -/
def QuotesLast (fragment : Text) : Prop :=
  ∀ row ∈ (solidRows fragment).dropLast, (lastMark? row).any isQuote = false

instance (fragment : Text) : Decidable (QuotesLast fragment) :=
  inferInstanceAs (Decidable (∀ row ∈ _, _))

theorem exists_of_startsImport {row : Text} (starts : startsImport row = true) :
    ∃ blanks more, isBlankText blanks = true ∧ row = blanks ++ 'i' :: more := by
  rw [startsImport] at starts
  split at starts
  · rename_i rest found
    have cut : row = row.takeWhile isBlank ++ trimLeft row :=
      List.takeWhile_append_dropWhile.symm
    rw [dropPrefix?_eq_some found] at cut
    exact ⟨_, _, List.all_takeWhile, cut⟩
  · exact absurd starts Bool.false_ne_true

/-- A statement starts with a word. -/
theorem IsImport.head?_filter (formed : IsImport (fragmentRows fragment)) :
    (fragment.filter (!isBlank ·)).head? = some 'i' := by
  have silent {blanks : Text} (blank : isBlankText blanks = true) :
      blanks.filter (!isBlank ·) = [] :=
    List.filter_eq_nil_iff.mpr fun char member => by
      simp [List.all_eq_true.mp blank char member]
  obtain ⟨left, right, newlines, -, cut⟩ := exists_trimWhile (· = '\n') fragment
  have blank : isBlankText left = true := List.all_eq_true.mpr fun char member => by
    rw [of_decide_eq_true (List.all_eq_true.mp newlines char member)]
    decide
  obtain ⟨begins, -, -⟩ := formed
  cases rows : fragmentRows fragment with
  | nil =>
    rw [rows] at begins
    exact absurd begins Bool.false_ne_true
  | cons row rest =>
    rw [rows, List.head?_cons, Option.any_some] at begins
    obtain ⟨blanks, more, blank', starts⟩ := exists_of_startsImport begins
    obtain ⟨behind, joined⟩ : ∃ behind, trimWhile (· = '\n') fragment = row ++ behind := by
      rw [← joinLines_splitOn (trimWhile (· = '\n') fragment), ← fragmentRows, rows]
      cases rest with
      | nil => exact ⟨[], (List.append_nil row).symm⟩
      | cons next rest => exact ⟨_, joinLines_cons (by simp)⟩
    rw [cut, joined, starts]
    simp only [List.filter_append, silent blank, silent blank', List.nil_append]
    rfl

/-- If the first rows of a statement are cut off, what they end in is no quote. -/
theorem exists_lastMark?_of_append {upper lower : List Text}
    (formed : IsImport (fragmentRows fragment)) (quotesLast : QuotesLast fragment)
    (split : solidRows fragment = upper ++ lower) (some' : upper ≠ []) (more : lower ≠ []) :
    ∃ mark, lastMark? upper.flatten = some mark ∧ isQuote mark = false := by
  have solid' : upper.flatten.filter (!isBlank ·) ≠ [] := by
    obtain ⟨row, rest, rfl⟩ := List.exists_cons_of_ne_nil some'
    have solidRow : isBlankText row = false :=
      (solid_of_mem_solidRows (split ▸ List.mem_append_left lower List.mem_cons_self)).1
    intro none'
    rw [List.flatten_cons, List.filter_append, List.append_eq_nil_iff, List.filter_eq_nil_iff]
      at none'
    have blank : isBlankText row = true := List.all_eq_true.mpr (by simpa using none'.1)
    exact Bool.false_ne_true (solidRow.symm.trans blank)
  have word : 'i' ∈ upper.flatten := by
    have first := formed.head?_filter
    obtain ⟨char, rest, cut⟩ := List.exists_cons_of_ne_nil solid'
    rw [← filter_solidRows (by simp), split, List.flatten_append, List.filter_append, cut,
      List.cons_append, List.head?_cons] at first
    rw [← Option.some.inj first]
    exact (List.mem_filter.mp (cut ▸ List.mem_cons_self)).1
  have mark : (lastMark? upper.flatten).isSome = true := by
    rw [lastMark?, List.getLast?_isSome]
    exact List.ne_nil_of_mem (List.mem_filter.mpr ⟨word, by decide⟩)
  obtain ⟨mark, last⟩ := Option.isSome_iff_exists.mp mark
  refine ⟨mark, last, ?_⟩
  obtain ⟨row, member, own⟩ := exists_of_lastMark?_flatten last
  have among : row ∈ (solidRows fragment).dropLast := by
    rw [split, List.dropLast_append_of_ne_nil more]
    exact List.mem_append_left _ member
  have plain := quotesLast row among
  rwa [own, Option.any_some] at plain

/-! ### Contents with a block behind the imports -/

theorem contentRows_ne_nil (content : Text) : contentRows content ≠ [] := by
  intro none'
  rcases contentRows_cases content with ⟨ends, made, -⟩ | ⟨-, -, cut⟩
  · rw [made, none'] at ends
    cases ends
  · exact splitOn_ne_nil '\n' content (cut.trans none')

/-- What does not end in a blank is a part of a content if it is one of the joined rows. -/
theorem infix_content_iff {part : Text} (ends : part.getLast?.any (!isBlank ·) = true) :
    part <:+: content ↔ part <:+: joinLines (contentRows content) := by
  rcases contentRows_cases content with ⟨-, made, -⟩ | ⟨-, made, -⟩
  · rw [← joinLines_concat_newline (contentRows_ne_nil content)] at made
    conv => lhs; rw [made]
    rw [List.infix_concat_iff, List.suffix_concat_iff]
    refine or_iff_right ?_
    rintro (rfl | ⟨front, rfl, -⟩)
    · exact absurd ends Bool.false_ne_true
    · rw [List.getLast?_concat] at ends
      exact absurd ends (by decide)
  · rw [← made]

/-- Whether rows are none, or the last of them ends a statement. -/
def ClosesImport (rows : List Text) : Prop := rows = [] ∨ rows.getLast?.any endsImport = true

theorem lastMark?_of_closesImport (closes : rows.getLast?.any endsImport = true) :
    ∃ quote, lastMark? (joinLines rows) = some quote ∧ isQuote quote = true := by
  rcases List.eq_nil_or_concat rows with rfl | ⟨upper, last, rfl⟩
  · exact absurd closes Bool.false_ne_true
  · rw [List.concat_eq_append, List.getLast?_concat, Option.any_some] at closes
    obtain ⟨quote, mark, quoted⟩ := exists_lastMark? closes
    refine ⟨quote, ?_, quoted⟩
    have whole : joinLines (upper ++ [last]) = closed upper ++ last := joinLines_append (by simp) _
    rw [List.concat_eq_append, whole, lastMark?_append, mark, Option.some_or]

/-- The rows of a statement are not cut behind rows of which the last one ends a statement. -/
theorem not_torn {upper lower : List Text} {front : Text}
    (formed : IsImport (fragmentRows fragment)) (quotesLast : QuotesLast fragment)
    (closes : above.getLast?.any endsImport = true)
    (split : solidRows fragment = upper ++ lower) (some' : upper ≠ []) (more : lower ≠ [])
    (ends : lastMark? (joinLines above) = (lastMark? upper.flatten).or (lastMark? front)) :
    False := by
  obtain ⟨mark, own, plain⟩ := exists_lastMark?_of_append formed quotesLast split some' more
  obtain ⟨quote, last, quoted⟩ := lastMark?_of_closesImport closes
  rw [last, own, Option.some_or] at ends
  rw [Option.some.inj ends, plain] at quoted
  exact Bool.false_ne_true quoted

/-- A statement that is a part of rows is a part of them with a block between, where rows end that
end a statement. -/
theorem trim_infix_of_block (formed : IsImport (fragmentRows fragment))
    (quotesLast : QuotesLast fragment) (closes : ClosesImport above)
    (trimmed : IsTrimmed (trim fragment))
    (part : trim fragment <:+: joinLines (above ++ below)) (block : List Text) :
    trim fragment <:+: joinLines (above ++ block ++ below) := by
  have upperRows : above <:+: above ++ block ++ below := ⟨[], block ++ below, by simp⟩
  have lowerRows : below <:+: above ++ block ++ below := ⟨above ++ block, [], by simp⟩
  by_cases some' : above = []
  · rw [some', List.nil_append] at part
    exact part.trans (infix_joinLines lowerRows)
  by_cases more : below = []
  · rw [more, List.append_nil] at part
    exact part.trans (infix_joinLines upperRows)
  rcases infix_joinLines_append trimmed some' more part with
    left | right | ⟨upper, lower, torn, front, joined⟩
  · exact left.trans (infix_joinLines upperRows)
  · exact right.trans (infix_joinLines lowerRows)
  · -- The block would come between two rows of the statement, of which the upper ends in a quote.
    exfalso
    have split : solidRows fragment = solidRows upper ++ solidRows lower := by
      rw [← solidRows_append, ← torn, trim, solidRows_trimWhile fun _ => id]
    rw [torn] at trimmed
    refine @not_torn _ _ _ _ front formed quotesLast (closes.resolve_left some') split
      (solidRows_ne_nil (.inl trimmed.edges.1)) (solidRows_ne_nil (.inr trimmed.edges.2)) ?_
    rw [← joined, lastMark?_append, lastMark?_solidRows]

/-- So it is with the rows of a statement, the blanks around each of them left out. -/
theorem solidRows_infix_of_block (formed : IsImport (fragmentRows fragment))
    (quotesLast : QuotesLast fragment) (closes : ClosesImport above)
    (part : solidRows fragment <:+: (above ++ below).flatMap solidRows) (block : List Text) :
    solidRows fragment <:+: (above ++ block ++ below).flatMap solidRows := by
  rw [List.flatMap_append, List.infix_append_iff_ne_nil] at part
  rw [List.flatMap_append, List.flatMap_append]
  rcases part with left | right | ⟨upper, lower, some', more, split, ⟨front, joined⟩, -⟩
  · exact left.trans ⟨[], _, by rw [List.nil_append, ← List.append_assoc]⟩
  · exact right.trans (List.suffix_append _ _).isInfix
  · exfalso
    rcases closes with none' | closes
    · rw [none'] at joined
      exact some' (List.append_eq_nil_iff.mp joined).2
    · refine @not_torn _ _ _ _ front.flatten formed quotesLast closes split some' more ?_
      rw [← lastMark?_solidRows (joinLines above), solidRows_joinLines, ← joined,
        List.flatten_append, lastMark?_append]

/-- A statement that is held is held as well with a block behind rows that end a statement, unless
it has a quote at the end of a row before its last one. -/
theorem contains_of_block (formed : IsImport (fragmentRows fragment))
    (quotesLast : QuotesLast fragment) (closes : ClosesImport above)
    (cut : contentRows content = above ++ below)
    (cut' : contentRows wider = above ++ block ++ below)
    (held : contains content fragment = true) : contains wider fragment = true := by
  rw [contains_iff] at held ⊢
  by_cases none' : trim fragment = []
  · exact .inl none'
  have trimmed := isTrimmed_trim none'
  rcases held with none'' | part | rows
  · exact absurd none'' none'
  · refine .inr (.inl ?_)
    rw [infix_content_iff trimmed.ends] at part ⊢
    rw [cut] at part
    rw [cut']
    exact trim_infix_of_block formed quotesLast closes trimmed part block
  · refine .inr (.inr ?_)
    rw [← flatMap_contentRows content, cut] at rows
    rw [← flatMap_contentRows wider, cut']
    exact solidRows_infix_of_block formed quotesLast closes rows block

/-! ### The rows after an insertion -/

theorem contentRows_concat_newline (some' : rows ≠ []) (clean : ∀ row ∈ rows, '\n' ∉ row) :
    contentRows (joinLines rows ++ ['\n']) = rows := by
  rw [contentRows, List.getLast?_concat, if_pos rfl, splitOn_append '\n' (joinLines rows) [],
    splitOn_joinLines some' clean]
  exact List.dropLast_concat

theorem contentRows_joinLines (last : rows.getLast?.any (!·.isEmpty) = true)
    (clean : ∀ row ∈ rows, '\n' ∉ row) : contentRows (joinLines rows) = rows := by
  rcases List.eq_nil_or_concat rows with rfl | ⟨upper, row, rfl⟩
  · exact absurd last Bool.false_ne_true
  rw [List.concat_eq_append] at last clean ⊢
  rw [List.getLast?_concat, Option.any_some] at last
  have open' : (joinLines (upper ++ [row])).getLast? ≠ some '\n' := by
    have whole : joinLines (upper ++ [row]) = closed upper ++ row := joinLines_append (by simp) _
    obtain ⟨front, char, rfl⟩ := (List.eq_nil_or_concat row).resolve_left (by simpa using last)
    rw [whole, List.concat_eq_append, ← List.append_assoc, List.getLast?_concat]
    rintro same
    refine clean _ (List.mem_append_right upper List.mem_cons_self) ?_
    rw [← Option.some.inj same, List.concat_eq_append]
    simp
  rw [contentRows, if_neg open', splitOn_joinLines (by simp) clean]

theorem getLast?_contentRows (some' : content ≠ []) (open' : content.getLast? ≠ some '\n') :
    (contentRows content).getLast?.any (!·.isEmpty) = true := by
  obtain ⟨upper, last, rows⟩ :=
    (List.eq_nil_or_concat (contentRows content)).resolve_left (contentRows_ne_nil content)
  rcases contentRows_cases content with ⟨ends, -, -⟩ | ⟨-, made, -⟩
  · exact absurd ends open'
  rw [rows, List.concat_eq_append, List.getLast?_concat, Option.any_some]
  cases last with
  | cons char last => rfl
  | nil =>
    have whole : joinLines (upper ++ [[]]) = closed upper ++ [] := joinLines_append (by simp) _
    rw [rows, List.concat_eq_append, whole, List.append_nil] at made
    rcases List.eq_nil_or_concat upper with rfl | ⟨front, row, rfl⟩
    · exact absurd made some'
    · rw [made, List.concat_eq_append, closed_append] at open'
      exact absurd (by simp [closed]) open'

/-- The rows after an import is inserted that the content does not hold. -/
theorem contentRows_insert?_import {insertion : Insertion}
    (missing : contains content fragment = false) (formed : IsImport (fragmentRows fragment))
    (inserted : Primitive.importStatement.insert? content fragment = some insertion) :
    contentRows insertion.content =
      (contentRows content).take (importPlace (contentRows content)) ++ rendered fragment [] ++
        (contentRows content).drop (importPlace (contentRows content)) := by
  obtain ⟨locator, made⟩ := insert?_import missing
  rw [inserted] at made
  rw [Option.some.inj made]
  generalize importPlace (contentRows content) = place
  have clean : ∀ row ∈ (contentRows content).take place ++ rendered fragment [] ++
      (contentRows content).drop place, '\n' ∉ row := by
    intro row member
    rcases List.mem_append.mp member with upper | lower
    · rcases List.mem_append.mp upper with upper | own
      · exact not_mem_of_mem_contentRows (List.mem_of_mem_take upper)
      · exact not_mem_of_mem_rendered (by simp) own
    · exact not_mem_of_mem_contentRows (List.mem_of_mem_drop lower)
  dsimp only
  split
  · exact contentRows_concat_newline (by simp [rendered_ne_nil]) clean
  · rename_i open'
    rw [List.append_nil]
    refine contentRows_joinLines ?_ clean
    rw [Bool.or_eq_true, not_or, List.isEmpty_iff, decide_eq_true_eq] at open'
    have last := getLast?_contentRows open'.1 open'.2
    rw [← List.take_append_drop place (contentRows content), List.getLast?_append] at last
    rw [List.getLast?_append]
    cases lower : ((contentRows content).drop place).getLast? with
    | some row =>
      rw [lower, Option.some_or] at last
      rwa [Option.some_or]
    | none =>
      obtain ⟨row, isLast, ends⟩ := (Option.any_eq_true _ _).mp formed.rendered.ends
      rw [Option.none_or, List.getLast?_append, isLast, Option.some_or, Option.any_some]
      cases row with
      | nil => exact absurd ends (by decide)
      | cons char row => rfl

/-! ### One statement after the other -/

/-- The fragments that a content does not hold when their turn comes. -/
def newcomers (primitive : Primitive) : Text → List Text → List Text
  | _, [] => []
  | content, fragment :: fragments =>
    let behind := match primitive.insert? content fragment with
      | some insertion => newcomers primitive insertion.content fragments
      | none => []
    if contains content fragment then behind else fragment :: behind

variable {primitive : Primitive} {fragments : List Text}

theorem insert?_of_contains (held : contains content fragment = true) :
    primitive.insert? content fragment = some ⟨content, none⟩ := by
  rw [Primitive.insert?, insert?, held, if_pos rfl]

/-- What is held when its turn comes is no newcomer. -/
theorem newcomers_of_contains (held : contains content fragment = true) :
    newcomers primitive content (fragment :: fragments) =
      newcomers primitive content fragments := by
  rw [newcomers, insert?_of_contains held, if_pos held]

theorem newcomers_of_not_contains {insertion : Insertion}
    (missing : contains content fragment = false)
    (inserted : primitive.insert? content fragment = some insertion) :
    newcomers primitive content (fragment :: fragments) =
      fragment :: newcomers primitive insertion.content fragments := by
  rw [newcomers, inserted, missing, if_neg Bool.false_ne_true]

theorem insertEach?_cons {insertion : Insertion}
    (inserted : primitive.insert? content fragment = some insertion) :
    primitive.insertEach? content (fragment :: fragments) =
      (primitive.insertEach? insertion.content fragments).map fun found =>
        (found.1, insertion :: found.2) := by
  rw [Primitive.insertEach?, inserted, Option.bind_eq_bind, Option.bind_some]
  cases primitive.insertEach? insertion.content fragments <;> rfl

/-- What stands in a content as it is written is held. -/
theorem contains_of_rendered (among : rendered fragment [] <:+: contentRows content) :
    contains content fragment = true := by
  obtain ⟨above, below, rows⟩ := among
  have solid' := congrArg (List.flatMap solidRows) rows.symm
  rw [flatMap_contentRows, List.flatMap_append, List.flatMap_append,
    flatMap_rendered (by rfl)] at solid'
  exact contains_of_solidRows solid'

theorem EndsBlock.closesImport (block : EndsBlock above) : ClosesImport above := by
  rcases List.eq_nil_or_concat above with rfl | ⟨upper, last, rfl⟩
  · exact .inl rfl
  · refine .inr ?_
    rw [List.concat_eq_append, List.getLast?_concat, Option.any_some]
    refine Bool.not_eq_false _ |>.mp fun open' => ?_
    exact importPlace_ne_of_not_endsImport open' (by simpa using block.whole)

/-- Statements that are inserted one after the other stand in their order behind rows that end the
block of imports, and those that were held before are held still. -/
theorem insertEach?_of_endsBlock
    (formed : ∀ fragment ∈ fragments, IsImport (fragmentRows fragment))
    (block : EndsBlock above) (free : IsFree below) (cut : contentRows content = above ++ below) :
    ∃ final insertions,
      Primitive.importStatement.insertEach? content fragments = some (final, insertions) ∧
      contentRows final = above ++
        (newcomers .importStatement content fragments).flatMap (rendered · []) ++ below ∧
      ∀ fragment ∈ fragments, QuotesLast fragment → contains final fragment = true := by
  induction fragments generalizing content above with
  | nil => exact ⟨content, [], rfl, by simpa [newcomers] using cut, by simp⟩
  | cons fragment fragments inductionHypothesis =>
    obtain ⟨first, others⟩ := List.forall_mem_cons.mp formed
    cases held : contains content fragment with
    | true =>
      -- What is held may lie across the end of the block, where the others are put in.
      obtain ⟨final, insertions, made, rows, kept⟩ := inductionHypothesis others block cut
      refine ⟨final, ⟨content, none⟩ :: insertions, ?_, ?_, ?_⟩
      · rw [insertEach?_cons (insert?_of_contains held), made]
        rfl
      · rw [newcomers_of_contains held, rows]
      · refine List.forall_mem_cons.mpr ⟨fun quotesLast => ?_, kept⟩
        exact contains_of_block first quotesLast block.closesImport cut rows held
    | false =>
      obtain ⟨insertion, inserted⟩ := Primitive.importStatement.exists_insert? content fragment
      have rows := contentRows_insert?_import held first inserted
      have place : importPlace (contentRows content) = above.length := by
        rw [cut]
        exact block.importPlace_append_iff.mpr free
      rw [place, cut, List.take_left, List.drop_left] at rows
      -- What is inserted ends the block, so that the next one goes right behind it.
      obtain ⟨final, insertions, made, rows', kept⟩ :=
        inductionHypothesis others (first.rendered.endsBlock_append above) rows
      refine ⟨final, insertion :: insertions, ?_, ?_, ?_⟩
      · rw [insertEach?_cons inserted, made]
        rfl
      · rw [newcomers_of_not_contains held inserted, rows', List.flatMap_cons]
        simp only [List.append_assoc]
      · refine List.forall_mem_cons.mpr ⟨fun _ => contains_of_rendered ?_, kept⟩
        rw [rows', List.append_assoc (above ++ Code.rendered fragment [])]
        exact List.infix_append above _ _

/-! ### A second time -/

theorem insertEach?_of_contains
    (held : ∀ fragment ∈ fragments, contains content fragment = true) :
    primitive.insertEach? content fragments =
      some (content, fragments.map fun _ => ⟨content, none⟩) := by
  induction fragments with
  | nil => rfl
  | cons fragment fragments inductionHypothesis =>
    obtain ⟨first, others⟩ := List.forall_mem_cons.mp held
    rw [insertEach?_cons (insert?_of_contains first), inductionHypothesis others]
    rfl

/-- Insertions only add newlines, and add none only if all fragments are held from the start. -/
theorem count_of_insertEach? {final : Text} {insertions : List Insertion}
    (made : primitive.insertEach? content fragments = some (final, insertions)) :
    content.count '\n' ≤ final.count '\n' ∧ (final.count '\n' ≤ content.count '\n' →
      ∀ fragment ∈ fragments, contains content fragment = true) := by
  induction fragments generalizing content insertions with
  | nil =>
    obtain ⟨rfl, -⟩ := Prod.mk.inj (Option.some.inj made)
    exact ⟨Nat.le_refl _, by simp⟩
  | cons fragment fragments inductionHypothesis =>
    obtain ⟨insertion, inserted⟩ := primitive.exists_insert? content fragment
    rw [insertEach?_cons inserted] at made
    obtain ⟨⟨final, rest⟩, others, same⟩ := Option.map_eq_some_iff.mp made
    obtain ⟨rfl, -⟩ := Prod.mk.inj same
    obtain ⟨more, held⟩ := inductionHypothesis others
    cases first : contains content fragment with
    | true =>
      rw [insert?_of_contains first] at inserted
      obtain rfl := Option.some.inj inserted
      exact ⟨more, fun few => List.forall_mem_cons.mpr ⟨first, held few⟩⟩
    | false =>
      have added := count_lt_of_insert? first inserted
      exact ⟨Nat.le_of_lt (Nat.lt_of_lt_of_le added more), fun few =>
        absurd (Nat.le_trans more few) (Nat.not_le_of_lt added)⟩

/-- Inserting fragments leaves a content as it is exactly if it holds all of them. -/
theorem insertEach?_fixes_iff :
    (primitive.insertEach? content fragments).map (·.1) = some content ↔
      ∀ fragment ∈ fragments, contains content fragment = true := by
  constructor
  · intro fixed
    obtain ⟨⟨final, insertions⟩, made, rfl⟩ := Option.map_eq_some_iff.mp fixed
    exact (count_of_insertEach? made).2 (Nat.le_refl _)
  · intro held
    rw [insertEach?_of_contains held, Option.map_some]

/-- Import statements that are inserted one after the other add one block behind the last import, or
at the top: what is written of those that were not held when their turn came, in their order.
Inserting them all again changes nothing exactly if all of them are held then; those that were
inserted are, and those with no quote at the end of a row but the last. -/
theorem insertEach?_import {content : Text} {fragments : List Text}
    (formed : ∀ fragment ∈ fragments, IsImport (fragmentRows fragment)) :
    ∃ final insertions above below,
      Primitive.importStatement.insertEach? content fragments = some (final, insertions) ∧
      contentRows content = above ++ below ∧
      above.length = importPlace (contentRows content) ∧
      contentRows final = above ++
        (newcomers .importStatement content fragments).flatMap (rendered · []) ++ below ∧
      (∀ fragment ∈ fragments, fragment ∈ newcomers .importStatement content fragments ∨
        QuotesLast fragment → contains final fragment = true) ∧
      ((Primitive.importStatement.insertEach? final fragments).map (·.1) = some final ↔
        ∀ fragment ∈ fragments, contains final fragment = true) := by
  obtain ⟨block, free⟩ := endsBlock_take (contentRows content)
  have cut := (List.take_append_drop (importPlace (contentRows content))
    (contentRows content)).symm
  obtain ⟨final, insertions, made, rows, kept⟩ := insertEach?_of_endsBlock formed block free cut
  refine ⟨final, insertions, _, _, made, cut, ?_, rows, fun fragment member => ?_,
    insertEach?_fixes_iff⟩
  · rw [List.length_take, Nat.min_eq_left (importPlace_le_length _)]
  · rintro (new | quotesLast)
    · obtain ⟨before, behind, news⟩ := List.append_of_mem new
      refine contains_of_rendered ?_
      rw [rows, news, List.flatMap_append, List.flatMap_cons]
      exact ⟨_ ++ before.flatMap (rendered · []), behind.flatMap (rendered · []) ++ _, by
        simp only [List.append_assoc]; rfl⟩
    · exact kept fragment member quotesLast

/-- Statements of one row and of several, one that is held and one that comes twice. -/
def importsInOrder : List Text :=
  ["import b from 'b';".toList, "  import \x7b\n    c,\n  \x7d from 'c';\n".toList,
    "import a from 'a';".toList, "import b from 'b';".toList]

theorem insertEach?_import_in_order :
    (∀ fragment ∈ importsInOrder, IsImport (fragmentRows fragment)) ∧
      ∃ final insertions,
        Primitive.importStatement.insertEach? "import a from 'a';\nrun();\n".toList importsInOrder =
          some (final, insertions) ∧
        contentRows final = ["import a from 'a';".toList, "import b from 'b';".toList,
          "import \x7b".toList, "  c,".toList, "\x7d from 'c';".toList, "run();".toList] ∧
        (Primitive.importStatement.insertEach? final importsInOrder).map (·.1) = some final := by
  have formed : ∀ fragment ∈ importsInOrder, IsImport (fragmentRows fragment) := by decide
  obtain ⟨final, insertions, above, below, made, cut, place, rows, held, fixed⟩ :=
    @insertEach?_import "import a from 'a';\nrun();\n".toList _ formed
  have cut' : contentRows "import a from 'a';\nrun();\n".toList =
      ["import a from 'a';".toList] ++ ["run();".toList] := by decide
  obtain ⟨rfl, rfl⟩ := List.append_inj (cut'.symm.trans cut) (place.symm ▸ by decide)
  refine ⟨formed, final, insertions, made, ?_, fixed.mpr fun fragment member => ?_⟩
  · rw [rows]
    decide
  · exact held fragment member (.inr ((by decide : ∀ fragment ∈ importsInOrder,
      QuotesLast fragment) fragment member))

/-- A statement that is held across the end of the imports, and one that comes between its rows. -/
def importsAcross : List Text := ["import b'\nfoo 'bar'".toList, "import t from 't'".toList]

/-- The first statement is held when its turn comes, and torn by the second one; so it is inserted
when both are inserted again. -/
theorem insertEach?_import_torn :
    (∀ fragment ∈ importsAcross, IsImport (fragmentRows fragment)) ∧
      (Primitive.importStatement.insertEach? "import a from 'import b'\nfoo 'bar'\n".toList
          importsAcross).map (·.1) =
        some "import a from 'import b'\nimport t from 't'\nfoo 'bar'\n".toList ∧
      (Primitive.importStatement.insertEach?
          "import a from 'import b'\nimport t from 't'\nfoo 'bar'\n".toList
          importsAcross).map (·.1) =
        some ("import a from 'import b'\nimport t from 't'\n".toList ++
          "import b'\nfoo 'bar'\nfoo 'bar'\n".toList) := by
  decide

end GuidedMigration.Code
