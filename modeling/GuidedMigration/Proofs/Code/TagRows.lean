/-
This file reads a text as tags of one name with other text between them. A tag may go on over
several rows; it belongs to the row in which it begins. An opening tag, or one that closes itself,
is seen by the search for elements if a blank of the same row or the end of the tag follows its
name, and a closing tag always is. So the tags that are counted in a row are those that begin there
and are seen.
-/
import GuidedMigration.Code.Anchor
import GuidedMigration.Proofs.Text.Rows

namespace GuidedMigration.Code

open Text

/-! ### Tags and other text -/

/-- A part of a text: other text, an opening tag, one that closes itself, or a closing tag. -/
inductive TagPart where
  | other (chars : Text)
  | opening (attributes : Text)
  | single (attributes : Text)
  | closing
  deriving DecidableEq

namespace TagPart

/-- A part as it is written, behind its first character if it is a tag. -/
def body (tag : Text) : TagPart → Text
  | other chars => chars
  | opening attributes => tag ++ attributes ++ ['>']
  | single attributes => tag ++ attributes ++ ['/', '>']
  | closing => '/' :: tag ++ ['>']

/-- The character that opens a tag. -/
def start : TagPart → Text
  | other _ => []
  | _ => ['<']

theorem start_cases (part : TagPart) : part.start = [] ∨ part.start = ['<'] := by
  cases part <;> simp [start]

/-- A part as it is written. -/
def shown (tag : Text) (part : TagPart) : Text := part.start ++ part.body tag

/-- How many more elements are open behind a part than in front of it. -/
def weight : TagPart → Int
  | opening _ => 1
  | closing => -1
  | _ => 0

def isOpening : TagPart → Bool
  | opening _ => true
  | _ => false

def isClosing : TagPart → Bool
  | closing => true
  | _ => false

/-- Whether a character behind the name of a tag, in the same row, makes it a tag. -/
def isBehindName (char : Char) : Bool := char != '\n' && (isBlank char || char = '>')

/-- Whether a part is seen as a tag that opens an element or closes itself. -/
def isSeen : TagPart → Bool
  | opening attributes => (attributes ++ ['>']).head?.any isBehindName
  | single attributes => (attributes ++ ['/', '>']).head?.any isBehindName
  | _ => false

end TagPart

/-- Parts as they are written. -/
def shownParts (tag : Text) (parts : List TagPart) : Text := parts.flatMap (·.shown tag)

/-- Whether a tag stands at the start of a text, seen by the search for elements. -/
def startsTag (tag text : Text) : Bool :=
  (openingTag tag none text).isSome || startsWith (closingTag tag) text

/-- Whether no tag starts in a text that another text follows. -/
def isQuiet (tag : Text) : Text → Text → Bool
  | [], _ => true
  | char :: text, behind => !startsTag tag (char :: text ++ behind) && isQuiet tag text behind

/-- Whether tags start in the text of parts only where a part says so. -/
def isFaithful (tag : Text) : List TagPart → Bool
  | [] => true
  | part :: parts => isQuiet tag (part.body tag) (shownParts tag parts) && isFaithful tag parts

/-- Whether a text is the name of tags. -/
structure IsTagName (tag : Text) : Prop where
  some' : tag ≠ []
  unopened : '<' ∉ tag
  unclosed : '/' ∉ tag
  unbroken : '\n' ∉ tag

/-! ### Occurrences -/

/-- How many ends of a text satisfy `starts`. -/
def countStarts (starts : Text → Bool) : Text → Nat
  | [] => 0
  | char :: text => (if starts (char :: text) then 1 else 0) + countStarts starts text

section Scan

variable {Found : Type} {recognise : Recogniser Found} {mark : Char}
  (anywhere : ∀ before text, recognise before text = recognise none text)
  (marked : ∀ text found length, recognise none text = some (found, length) →
    ∃ body behind, text = mark :: body ++ behind ∧ mark ∉ body ∧ length = body.length + 1)

include marked in
theorem not_isSome_recognise {char : Char} (other : char ≠ mark) (text : Text) :
    (recognise none (char :: text)).isSome = false := by
  refine Bool.eq_false_iff.mpr fun found => other ?_
  obtain ⟨⟨occurrence, length⟩, found⟩ := Option.isSome_iff_exists.mp found
  obtain ⟨body, behind, cut, -, -⟩ := marked _ _ _ found
  exact (List.cons.inj cut).1

include anywhere marked in
/-- While an occurrence is skipped, no mark comes, so nothing is missed. -/
theorem length_filterMap_scanFrom {kept : Piece Found → Option Found}
    (plain : ∀ char, kept (.plain char) = none)
    (found : ∀ occurrence, kept (.found occurrence) = some occurrence) (skip : Nat)
    (before : Option Char) (text : Text) (clean : mark ∉ text.take skip) :
    ((scanFrom recognise skip before text).filterMap kept).length =
      countStarts (fun text => (recognise none text).isSome) text := by
  induction text generalizing skip before with
  | nil => cases skip <;> rfl
  | cons char text inductionHypothesis =>
    cases skip with
    | succ skip =>
      rw [List.take_succ_cons, List.mem_cons, not_or] at clean
      rw [scanFrom, inductionHypothesis skip _ clean.2, countStarts,
        not_isSome_recognise marked (Ne.symm clean.1), if_neg Bool.false_ne_true, Nat.zero_add]
    | zero =>
      rw [scanFrom, anywhere, countStarts]
      cases here : recognise none (char :: text) with
      | none =>
        dsimp only
        rw [List.filterMap_cons_none (plain char), inductionHypothesis 0 _ (by simp)]
        simp
      | some occurrence =>
        obtain ⟨body, behind, cut, unmarked, length⟩ := marked _ _ _ here
        obtain ⟨-, rfl⟩ := List.cons.inj cut
        dsimp only
        rw [List.filterMap_cons_some (found _), List.length_cons, length, Nat.add_sub_cancel,
          inductionHypothesis body.length _ (by simpa using unmarked)]
        simp [Nat.add_comm]

include anywhere marked in
/-- Occurrences that start with a mark and have no further one are found wherever one starts. -/
theorem length_findAll (text : Text) :
    (findAll recognise text).length =
      countStarts (fun text => (recognise none text).isSome) text :=
  length_filterMap_scanFrom anywhere marked (fun _ => rfl) (fun _ => rfl) 0 none text (by simp)

end Scan

/-- Recognising an opening tag takes the name and the character in front of it. -/
theorem openingTag_eq_some {tag text : Text} {found : Unit} {length : Nat}
    (opens : openingTag tag none text = some (found, length)) :
    ∃ next behind, text = '<' :: tag ++ next :: behind ∧ (isBlank next || next = '>') = true ∧
      length = tag.length + 1 := by
  rw [openingTag] at opens
  split at opens
  · rename_i next behind found
    split at opens
    · rename_i ends
      obtain ⟨-, rfl⟩ := Prod.mk.inj (Option.some.inj opens)
      exact ⟨next, behind, dropPrefix?_eq_some found, by simpa using ends, rfl⟩
    · cases opens
  · cases opens

theorem literal_eq_some {part text : Text} {found : Unit} {length : Nat}
    (starts : literal part none text = some (found, length)) :
    ∃ behind, text = part ++ behind ∧ length = part.length := by
  rw [literal] at starts
  split at starts
  · rename_i here
    obtain ⟨behind, found⟩ := Option.isSome_iff_exists.mp (Bool.and_eq_true_iff.mp here).2
    exact ⟨behind, dropPrefix?_eq_some found, (Prod.mk.inj (Option.some.inj starts)).2.symm⟩
  · cases starts

theorem isSome_literal {part : Text} (some' : part ≠ []) (text : Text) :
    (literal part none text).isSome = startsWith part text := by
  rw [literal]
  cases starts : startsWith part text <;> simp [some']

/-- The opening tags of a row, and its closing tags, are found wherever one starts. -/
theorem length_findAll_openingTag {tag : Text} (named : IsTagName tag) (row : Text) :
    (findAll (openingTag tag) row).length =
      countStarts (fun text => (openingTag tag none text).isSome) row := by
  refine @length_findAll _ _ '<' (fun _ _ => rfl) (fun text found length opens => ?_) row
  obtain ⟨next, behind, rfl, -, rfl⟩ := openingTag_eq_some opens
  exact ⟨tag, next :: behind, rfl, named.unopened, rfl⟩

theorem countOf_closingTag {tag : Text} (named : IsTagName tag) (row : Text) :
    countOf (closingTag tag) row = countStarts (startsWith (closingTag tag)) row := by
  have same : startsWith (closingTag tag) =
      fun text => (literal (closingTag tag) none text).isSome :=
    funext fun text => (isSome_literal (by simp [closingTag]) text).symm
  rw [same, countOf]
  refine @length_findAll _ _ '<' (fun _ _ => rfl) (fun text found length starts => ?_) row
  obtain ⟨behind, rfl, rfl⟩ := literal_eq_some starts
  refine ⟨'/' :: tag ++ ['>'], behind, rfl, ?_, rfl⟩
  have unmarked := named.unopened
  simpa using unmarked

/-! ### Parts by rows -/

/-- How many rows a text goes on to. -/
def breaks (text : Text) : Nat := text.count '\n'

/-- Rows of parts with a part in front of the first one. -/
def pushPart (part : TagPart) : List (List TagPart) → List (List TagPart)
  | [] => [[part]]
  | row :: rows => (part :: row) :: rows

/-- The parts that begin in each row of a text. -/
def tagRows (tag : Text) : List TagPart → List (List TagPart)
  | [] => [[]]
  | part :: parts =>
    pushPart part (List.replicate (breaks (part.shown tag)) [] ++ tagRows tag parts)

theorem tagRows_ne_nil (tag : Text) (parts : List TagPart) : tagRows tag parts ≠ [] := by
  cases parts with
  | nil => simp [tagRows]
  | cons part parts =>
    rw [tagRows]
    cases List.replicate (breaks (part.shown tag)) [] ++ tagRows tag parts <;> simp [pushPart]

theorem flatten_tagRows (tag : Text) (parts : List TagPart) :
    (tagRows tag parts).flatten = parts := by
  induction parts with
  | nil => rfl
  | cons part parts inductionHypothesis =>
    have pushed (rows : List (List TagPart)) :
        (pushPart part rows).flatten = part :: rows.flatten := by
      cases rows <;> rfl
    have empty (size : Nat) : (List.replicate size ([] : List TagPart)).flatten = [] := by simp
    rw [tagRows, pushed, List.flatten_append, empty, List.nil_append, inductionHypothesis]

theorem length_tagRows (tag : Text) (parts : List TagPart) :
    (tagRows tag parts).length = breaks (shownParts tag parts) + 1 := by
  induction parts with
  | nil => rfl
  | cons part parts inductionHypothesis =>
    have pushed {rows : List (List TagPart)} (some' : rows ≠ []) :
        (pushPart part rows).length = rows.length := by
      obtain ⟨row, rows, rfl⟩ := List.exists_cons_of_ne_nil some'
      rfl
    have parted : shownParts tag (part :: parts) = part.shown tag ++ shownParts tag parts := rfl
    rw [tagRows, pushed (by simp [tagRows_ne_nil]), List.length_append, List.length_replicate,
      inductionHypothesis, parted, breaks, breaks, breaks, List.count_append]
    exact (Nat.add_assoc _ _ 1).symm

/-- The last row of parts goes on with the first row of those that follow. -/
theorem tagRows_append {tag : Text} {left right : List TagPart} {upper lower : List (List TagPart)}
    {last first : List TagPart} (above : tagRows tag left = upper ++ [last])
    (below : tagRows tag right = first :: lower) :
    tagRows tag (left ++ right) = upper ++ (last ++ first) :: lower := by
  induction left generalizing upper last with
  | nil =>
    obtain ⟨rfl, single⟩ := (List.append_eq_singleton_iff.mp above.symm).resolve_right (by simp)
    obtain rfl : last = [] := by simpa using single
    exact below
  | cons part left inductionHypothesis =>
    obtain ⟨above', last', rows⟩ := (List.eq_nil_or_concat (tagRows tag left)).resolve_left
      (tagRows_ne_nil tag left)
    rw [List.concat_eq_append] at rows
    rw [tagRows, rows, ← List.append_assoc] at above
    rw [List.cons_append, tagRows, inductionHypothesis rows, ← List.append_assoc]
    generalize List.replicate (breaks (part.shown tag)) [] ++ above' = lead at above ⊢
    cases lead with
    | nil =>
      obtain ⟨rfl, single⟩ := (List.append_eq_singleton_iff.mp above.symm).resolve_right (by simp)
      obtain rfl : last = part :: last' := by simpa using single
      rfl
    | cons row rows =>
      rw [List.cons_append, pushPart, ← List.cons_append] at above
      obtain ⟨rfl, same⟩ := List.append_inj' above rfl
      obtain rfl := List.singleton_inj.mp same
      rfl

/-! ### Counting in rows -/

/-- How many ends of each row of a text satisfy `starts`. -/
def rowCounts (starts : Text → Bool) (text : Text) : List Nat :=
  (splitOn '\n' text).map (countStarts starts)

/-- Adds to the first of some numbers. -/
def addFirst (more : Nat) : List Nat → List Nat
  | [] => [more]
  | first :: rest => (more + first) :: rest

theorem rowCounts_newline (starts : Text → Bool) (text : Text) :
    rowCounts starts ('\n' :: text) = 0 :: rowCounts starts text := by
  rw [rowCounts, splitOn, if_pos rfl]
  rfl

theorem headD_splitOn_cons {char : Char} (other : char ≠ '\n') (text : Text) :
    (splitOn '\n' (char :: text)).headD [] = char :: (splitOn '\n' text).headD [] := by
  obtain ⟨row, rows, split⟩ := List.exists_cons_of_ne_nil (splitOn_ne_nil '\n' text)
  rw [splitOn, if_neg other, split]
  rfl

theorem rowCounts_cons (starts : Text → Bool) {char : Char} (other : char ≠ '\n') (text : Text) :
    rowCounts starts (char :: text) =
      addFirst (if starts ((splitOn '\n' (char :: text)).headD []) then 1 else 0)
        (rowCounts starts text) := by
  obtain ⟨row, rows, split⟩ := List.exists_cons_of_ne_nil (splitOn_ne_nil '\n' text)
  rw [headD_splitOn_cons other, rowCounts, splitOn, if_neg other, rowCounts, split]
  rfl

theorem addFirst_zero {numbers : List Nat} (some' : numbers ≠ []) :
    addFirst 0 numbers = numbers := by
  obtain ⟨first, rest, rfl⟩ := List.exists_cons_of_ne_nil some'
  rw [addFirst, Nat.zero_add]

theorem rowCounts_ne_nil (starts : Text → Bool) (text : Text) : rowCounts starts text ≠ [] :=
  mt List.map_eq_nil_iff.mp (splitOn_ne_nil '\n' text)

/-- A text in which no tag starts adds rows in which nothing is counted. -/
theorem rowCounts_quiet {tag text behind : Text} {starts : Text → Bool}
    (taken : ∀ text, starts ((splitOn '\n' text).headD []) = true → startsTag tag text = true)
    (quiet : isQuiet tag text behind = true) :
    rowCounts starts (text ++ behind) =
      List.replicate (breaks text) 0 ++ rowCounts starts behind := by
  induction text with
  | nil => rfl
  | cons char text inductionHypothesis =>
    rw [isQuiet, Bool.and_eq_true, Bool.not_eq_true'] at quiet
    have silent : starts ((splitOn '\n' (char :: (text ++ behind))).headD []) = false :=
      Bool.eq_false_iff.mpr fun here =>
        Bool.false_ne_true (quiet.1.symm.trans (taken (char :: text ++ behind) here))
    by_cases newline : char = '\n'
    · rw [newline, List.cons_append, rowCounts_newline, inductionHypothesis quiet.2, breaks,
        breaks, List.count_cons_self, List.replicate_succ, List.cons_append]
    · rw [List.cons_append, rowCounts_cons starts newline, silent, if_neg Bool.false_ne_true,
        addFirst_zero (rowCounts_ne_nil starts _), inductionHypothesis quiet.2, breaks, breaks,
        List.count_cons_of_ne newline]

/-- How many parts of each row satisfy `counted`. -/
def partCounts (tag : Text) (counted : TagPart → Bool) (parts : List TagPart) : List Nat :=
  (tagRows tag parts).map fun row => (row.filter counted).length

theorem partCounts_cons (tag : Text) (counted : TagPart → Bool) (part : TagPart)
    (parts : List TagPart) : partCounts tag counted (part :: parts) =
      addFirst (if counted part then 1 else 0)
        (List.replicate (breaks (part.shown tag)) 0 ++ partCounts tag counted parts) := by
  have pushed (rows : List (List TagPart)) :
      (pushPart part rows).map (fun row => (row.filter counted).length) =
        addFirst (if counted part then 1 else 0)
          (rows.map fun row => (row.filter counted).length) := by
    cases rows with
    | nil => cases counts : counted part <;> simp [pushPart, addFirst, counts]
    | cons row rows =>
      cases counts : counted part <;> simp [pushPart, addFirst, counts, Nat.add_comm]
  rw [partCounts, tagRows, pushed, List.map_append, List.map_replicate]
  rfl

/-- In a faithful text, each row has as many occurrences as parts that count as one. -/
theorem rowCounts_shownParts {tag : Text} {starts : Text → Bool} {counted : TagPart → Bool}
    (taken : ∀ text, starts ((splitOn '\n' text).headD []) = true → startsTag tag text = true)
    (same : ∀ part behind, part.start ≠ [] →
      starts ((splitOn '\n' (part.shown tag ++ behind)).headD []) = counted part)
    (plain' : ∀ part : TagPart, part.start = [] → counted part = false)
    {parts : List TagPart} (faithful : isFaithful tag parts = true) :
    rowCounts starts (shownParts tag parts) = partCounts tag counted parts := by
  induction parts with
  | nil => rfl
  | cons part parts inductionHypothesis =>
    rw [isFaithful, Bool.and_eq_true] at faithful
    have parted : shownParts tag (part :: parts) = part.shown tag ++ shownParts tag parts := rfl
    have quiet := rowCounts_quiet taken faithful.1
    rw [inductionHypothesis faithful.2] at quiet
    have more :
        List.replicate (breaks (part.shown tag)) 0 ++ partCounts tag counted parts ≠ [] := by
      simp [partCounts, tagRows_ne_nil]
    rw [parted, partCounts_cons]
    rcases part.start_cases with plain | tagged
    · -- Other text counts nowhere.
      have whole : part.shown tag = part.body tag := by rw [TagPart.shown, plain, List.nil_append]
      rw [plain' part plain, if_neg Bool.false_ne_true, addFirst_zero more, whole, quiet]
    · -- A tag counts where it starts, or not at all.
      have whole : part.shown tag = '<' :: part.body tag := by rw [TagPart.shown, tagged]; rfl
      rw [← same part (shownParts tag parts) (by simp [tagged]), whole, List.cons_append,
        rowCounts_cons starts (by decide), quiet, breaks, breaks,
        List.count_cons_of_ne (by decide)]

/-! ### Tags in rows -/

/-- The first row of a text. -/
def firstRow (text : Text) : Text := (splitOn '\n' text).headD []

theorem firstRow_append {front : Text} (inRow : '\n' ∉ front) (text : Text) :
    firstRow (front ++ text) = front ++ firstRow text := by
  induction front with
  | nil => rfl
  | cons char front inductionHypothesis =>
    rw [List.mem_cons, not_or] at inRow
    rw [List.cons_append, firstRow, headD_splitOn_cons (Ne.symm inRow.1), ← firstRow,
      inductionHypothesis inRow.2, List.cons_append]

theorem head?_firstRow (text : Text) :
    (firstRow text).head? = text.head?.filter (· != '\n') := by
  cases text with
  | nil => rfl
  | cons char text =>
    by_cases newline : char = '\n'
    · rw [newline]
      rfl
    · rw [firstRow, headD_splitOn_cons newline]
      simp [Option.filter, newline]

theorem firstRow_prefix (text : Text) : firstRow text <+: text := by
  induction text with
  | nil => exact List.prefix_rfl
  | cons char text inductionHypothesis =>
    by_cases newline : char = '\n'
    · rw [newline, firstRow, splitOn, if_pos rfl]
      exact List.nil_prefix
    · rw [firstRow, headD_splitOn_cons newline]
      exact List.cons_prefix_cons.mpr ⟨rfl, inductionHypothesis⟩

theorem isSome_openingTag (tag text : Text) :
    (openingTag tag none ('<' :: tag ++ text)).isSome =
      text.head?.any fun char => isBlank char || char = '>' := by
  rw [openingTag, dropPrefix?_append]
  cases text with
  | nil => rfl
  | cons char text =>
    dsimp only
    rw [List.head?_cons, Option.any_some]
    split <;> simp_all

theorem not_startsWith_closingTag {tag : Text} (named : IsTagName tag) (text : Text) :
    startsWith (closingTag tag) ('<' :: tag ++ text) = false := by
  obtain ⟨first, rest, rfl⟩ := List.exists_cons_of_ne_nil named.some'
  have apart : '/' ≠ first := fun same => named.unclosed (List.mem_cons.mpr (.inl same))
  simp [startsWith, closingTag, dropPrefix?, apart]

theorem not_isSome_openingTag {tag : Text} (named : IsTagName tag) (text : Text) :
    (openingTag tag none ('<' :: '/' :: text)).isSome = false := by
  obtain ⟨first, rest, rfl⟩ := List.exists_cons_of_ne_nil named.some'
  have apart : first ≠ '/' := fun same =>
    named.unclosed (List.mem_cons.mpr (.inl same.symm))
  simp [openingTag, dropPrefix?, apart]

/-- A name and a tag behind it are in one row. -/
theorem IsTagName.inRow {tag : Text} (named : IsTagName tag) : '\n' ∉ '<' :: tag := by
  intro member
  rcases List.mem_cons.mp member with same | inside
  · exact absurd same (by decide)
  · exact named.unbroken inside

theorem shown_opening (tag attributes : Text) :
    (TagPart.opening attributes).shown tag = '<' :: tag ++ (attributes ++ ['>']) := by
  simp [TagPart.shown, TagPart.start, TagPart.body]

theorem shown_single (tag attributes : Text) :
    (TagPart.single attributes).shown tag = '<' :: tag ++ (attributes ++ ['/', '>']) := by
  simp [TagPart.shown, TagPart.start, TagPart.body]

theorem shown_closing (tag : Text) :
    TagPart.closing.shown tag = ['<', '/'] ++ (tag ++ ['>']) := rfl

/-- A name is seen as that of a tag by the first character behind it. -/
theorem isSome_openingTag_firstRow {tag text : Text} (named : IsTagName tag) (some' : text ≠ [])
    (behind : Text) :
    (openingTag tag none (firstRow ('<' :: tag ++ (text ++ behind)))).isSome =
      text.head?.any TagPart.isBehindName := by
  obtain ⟨char, text, rfl⟩ := List.exists_cons_of_ne_nil some'
  rw [firstRow_append named.inRow, isSome_openingTag, head?_firstRow, List.cons_append,
    List.head?_cons, List.head?_cons, Option.any_some, TagPart.isBehindName]
  cases newline : char != '\n' <;> simp [Option.filter, newline]

variable {tag : Text} {parts : List TagPart}

/-- In each row of a faithful text, the tags that are seen are counted. -/
theorem rowCounts_openingTag (named : IsTagName tag) (faithful : isFaithful tag parts = true) :
    (splitOn '\n' (shownParts tag parts)).map
        (fun row => (findAll (openingTag tag) row).length) =
      partCounts tag (·.isSeen) parts := by
  rw [← @rowCounts_shownParts tag (fun text => (openingTag tag none text).isSome) (·.isSeen)
    (fun text here => ?_) (fun part behind tagged => ?_) (fun part plain => ?_) _ faithful]
  · exact List.map_congr_left fun row _ => length_findAll_openingTag named row
  · obtain ⟨⟨found, length⟩, opens⟩ := Option.isSome_iff_exists.mp here
    obtain ⟨next, behind, row, ends, -⟩ := openingTag_eq_some opens
    obtain ⟨further, cut⟩ := firstRow_prefix text
    rw [firstRow, row, List.append_assoc] at cut
    rw [startsTag, ← cut, isSome_openingTag]
    simp [ends]
  · rw [← firstRow]
    cases part with
    | other chars => exact absurd rfl tagged
    | opening attributes =>
      rw [shown_opening, List.append_assoc, isSome_openingTag_firstRow named (by simp)]
      rfl
    | single attributes =>
      rw [shown_single, List.append_assoc, isSome_openingTag_firstRow named (by simp)]
      rfl
    | closing =>
      rw [shown_closing, List.append_assoc, firstRow_append (by simp)]
      exact not_isSome_openingTag named _
  · cases part <;> simp [TagPart.start] at plain
    rfl

/-- In each row of a faithful text, the closing tags are counted. -/
theorem rowCounts_closingTag (named : IsTagName tag) (faithful : isFaithful tag parts = true) :
    (splitOn '\n' (shownParts tag parts)).map (fun row => countOf (closingTag tag) row) =
      partCounts tag (·.isClosing) parts := by
  rw [← @rowCounts_shownParts tag (startsWith (closingTag tag)) (·.isClosing)
    (fun text here => ?_) (fun part behind tagged => ?_) (fun part plain => ?_) _ faithful]
  · exact List.map_congr_left fun row _ => countOf_closingTag named row
  · obtain ⟨behind, found⟩ := Option.isSome_iff_exists.mp here
    obtain ⟨further, cut⟩ := firstRow_prefix text
    rw [firstRow, dropPrefix?_eq_some found, List.append_assoc] at cut
    rw [startsTag, ← cut, startsWith, dropPrefix?_append]
    simp
  · rw [← firstRow]
    cases part with
    | other chars => exact absurd rfl tagged
    | opening attributes =>
      rw [shown_opening, List.append_assoc, firstRow_append named.inRow]
      exact not_startsWith_closingTag named _
    | single attributes =>
      rw [shown_single, List.append_assoc, firstRow_append named.inRow]
      exact not_startsWith_closingTag named _
    | closing =>
      have inRow : '\n' ∉ closingTag tag := by
        have apart := named.inRow
        simp only [List.mem_cons, not_or] at apart
        simpa [closingTag] using apart.2
      rw [show TagPart.closing.shown tag = closingTag tag from rfl, firstRow_append inRow,
        startsWith, dropPrefix?_append]
      rfl
  · cases part <;> simp [TagPart.start] at plain
    rfl

end GuidedMigration.Code
