/-
This file shows that an insertion does what it is for: it always finds a place, the content holds
the fragment afterwards, and it has more rows than before. That the content holds the fragment is
shown by solid rows: those of the inserted block are those of the fragment, and nothing is put
between them.
-/
import GuidedMigration.Proofs.Text.SolidRows
import GuidedMigration.Target.Change

namespace GuidedMigration.Code

open Text

/-! ### Presence -/

theorem joinLines_framed (rows : List Text) (some' : rows ≠ []) :
    '\n' :: joinLines rows ++ ['\n'] = rows.flatMap ('\n' :: ·) ++ ['\n'] := by
  induction rows with
  | nil => exact absurd rfl some'
  | cons row rows inductionHypothesis =>
    cases rows with
    | nil => simp [joinLines, joinWith]
    | cons next rows =>
      have behind := inductionHypothesis (by simp)
      rw [List.cons_append] at behind
      rw [joinLines_cons (by simp), List.flatMap_cons, List.cons_append, List.append_assoc,
        List.cons_append, behind, List.append_assoc, List.cons_append]

/-- Rows that stand one behind the other among others are found there. -/
theorem occursIn_framed {rows : List Text} (some' : rows ≠ []) (before behind : List Text) :
    occursIn ('\n' :: joinLines rows ++ ['\n'])
      ('\n' :: joinLines (before ++ rows ++ behind) ++ ['\n']) = true := by
  have more : before ++ rows ++ behind ≠ [] := by simp [some']
  rw [joinLines_framed rows some', joinLines_framed _ more, List.flatMap_append,
    List.flatMap_append]
  obtain ⟨rest, newline⟩ : ∃ rest, behind.flatMap ('\n' :: ·) ++ ['\n'] = '\n' :: rest := by
    cases behind with
    | nil => exact ⟨[], rfl⟩
    | cons row behind => exact ⟨row ++ behind.flatMap ('\n' :: ·) ++ ['\n'], by simp⟩
  have cut : before.flatMap ('\n' :: ·) ++ rows.flatMap ('\n' :: ·) ++ behind.flatMap ('\n' :: ·) ++
      ['\n'] = before.flatMap ('\n' :: ·) ++ (rows.flatMap ('\n' :: ·) ++ ['\n']) ++ rest := by
    rw [List.append_assoc, newline]
    simp
  rw [cut]
  exact occursIn_append _ _ rest

/-- A content whose solid rows have those of a fragment one behind the other holds the fragment. -/
theorem contains_of_solidRows {content fragment : Text} {before behind : List Text}
    (rows : solidRows content = before ++ solidRows fragment ++ behind) :
    contains content fragment = true := by
  rw [contains]
  by_cases empty : (trim fragment).isEmpty
  · simp [empty]
  · have some' : solidRows fragment ≠ [] := by
      intro none'
      exact empty (by rw [trim_of_isBlankText (isBlankText_of_solidRows none')]; rfl)
    rw [strippedRows_eq, strippedRows_eq, rows, occursIn_framed some', Bool.or_true]

/-- Rows that are found among others stand there one behind the other. -/
theorem infix_of_framed {rows others : List Text} (some' : rows ≠ [])
    (solid' : ∀ row ∈ rows, row ≠ []) (clean : ∀ row ∈ rows, '\n' ∉ row)
    (clean' : ∀ row ∈ others, '\n' ∉ row)
    (framed : '\n' :: joinLines rows ++ ['\n'] <:+: '\n' :: joinLines others ++ ['\n']) :
    rows <:+: others := by
  obtain ⟨before, behind, cut⟩ := framed
  have parts := congrArg (splitOn '\n') cut
  have inner : before ++ ('\n' :: joinLines rows ++ ['\n']) ++ behind =
      before ++ '\n' :: (joinLines rows ++ '\n' :: behind) := by simp
  have outer : '\n' :: joinLines others ++ ['\n'] =
      [] ++ '\n' :: (joinLines others ++ '\n' :: []) := by simp
  rw [inner, outer, splitOn_append, splitOn_append, splitOn_append, splitOn_append,
    splitOn_joinLines some' clean] at parts
  obtain ⟨first, upper, above⟩ := List.exists_cons_of_ne_nil (splitOn_ne_nil '\n' before)
  obtain ⟨lower, last, below⟩ := (List.eq_nil_or_concat (splitOn '\n' behind)).resolve_left
    (splitOn_ne_nil '\n' behind)
  rw [above, below, List.concat_eq_append] at parts
  have within : upper ++ rows ++ lower = splitOn '\n' (joinLines others) := by
    have same : upper ++ rows ++ lower ++ [last] = splitOn '\n' (joinLines others) ++ [[]] := by
      simpa [splitOn] using (List.cons.inj parts).2
    exact (List.append_inj' same rfl).1
  by_cases none' : others = []
  · -- Of no rows there is an empty text, and no row that is found is empty.
    rw [none'] at within
    obtain ⟨row, rest, rfl⟩ := List.exists_cons_of_ne_nil some'
    have member : row ∈ splitOn '\n' (joinLines []) := by
      rw [← within]
      simp
    exact absurd (List.mem_singleton.mp member) (solid' row List.mem_cons_self)
  · rw [splitOn_joinLines none' clean'] at within
    exact ⟨upper, lower, within⟩

/-- A content holds a fragment if the fragment without the blanks around it is a part of the
content, or if its solid rows stand there one behind the other. -/
theorem contains_iff {content fragment : Text} :
    contains content fragment = true ↔
      trim fragment = [] ∨ trim fragment <:+: content ∨
        solidRows fragment <:+: solidRows content := by
  have clean {text row : Text} (member : row ∈ solidRows text) : '\n' ∉ row := fun newline =>
    Bool.false_ne_true (((solid_of_mem_solidRows member).2 _ newline).symm.trans
      isLineBreak_newline)
  have solid' (row : Text) (member : row ∈ solidRows fragment) : row ≠ [] := by
    rintro rfl
    exact Bool.false_ne_true (solid_of_mem_solidRows member).1.symm
  constructor
  · intro held
    rw [contains, Bool.or_eq_true, Bool.or_eq_true, List.isEmpty_iff, occursIn_iff, occursIn_iff,
      strippedRows_eq, strippedRows_eq] at held
    rcases held with (none' | part) | framed
    · exact .inl none'
    · exact .inr (.inl part)
    · by_cases some' : solidRows fragment = []
      · exact .inl (trim_of_isBlankText (isBlankText_of_solidRows some'))
      · exact .inr (.inr (infix_of_framed some' solid' (fun _ => clean) (fun _ => clean)
          framed))
  · rintro (none' | part | ⟨before, behind, rows⟩)
    · rw [contains, none']
      rfl
    · rw [contains, occursIn_iff.mpr part, Bool.or_true, Bool.true_or]
    · exact contains_of_solidRows rows.symm

/-! ### Anchors -/

theorem isBlankText_indentOf (row : Text) : isBlankText (indentOf row) = true :=
  List.all_takeWhile

theorem isBlankText_deeper (row : Text) : isBlankText (indentOf row ++ [' ', ' ']) = true := by
  rw [isBlankText_append, isBlankText_indentOf]
  decide

/-- Whether an indentation is none, that of one of the rows, or two columns more. -/
def IsIndentAmong (rows : List Text) (indent : Text) : Prop :=
  indent = [] ∨ ∃ row ∈ rows, indent = indentOf row ∨ indent = indentOf row ++ [' ', ' ']

theorem IsIndentAmong.isBlankText {rows : List Text} {indent : Text}
    (among : IsIndentAmong rows indent) : isBlankText indent = true := by
  rcases among with rfl | ⟨row, -, rfl | rfl⟩
  · rfl
  · exact isBlankText_indentOf row
  · exact isBlankText_deeper row

theorem IsIndentAmong.not_mem {rows : List Text} {indent : Text}
    (among : IsIndentAmong rows indent) (clean : ∀ row ∈ rows, '\n' ∉ row) : '\n' ∉ indent := by
  rcases among with rfl | ⟨row, member, same⟩
  · simp
  · have inside : '\n' ∉ indentOf row := fun newline =>
      clean row member (List.takeWhile_subset _ newline)
    rcases same with rfl | rfl
    · exact inside
    · simpa using inside

theorem isIndentAmong_closingRow? {tag : Text} {index : Nat} {depth : Int} {isFirst : Bool}
    {rows : List Text} {anchor : Anchor}
    (found : closingRow? tag index depth isFirst rows = some anchor) :
    IsIndentAmong rows anchor.indent := by
  induction rows generalizing index depth isFirst with
  | nil => simp [closingRow?] at found
  | cons row rows inductionHypothesis =>
    simp only [closingRow?] at found
    split at found
    · rw [← Option.some.inj found]
      exact .inr ⟨row, List.mem_cons_self, .inr rfl⟩
    · rcases inductionHypothesis found with none' | ⟨other, member, same⟩
      · exact .inl none'
      · exact .inr ⟨other, List.mem_cons_of_mem row member, same⟩

theorem mem_of_lastRow? {wanted : Text → Bool} {rows : List Text} {index : Nat} {row : Text}
    (found : lastRow? wanted rows = some (index, row)) : row ∈ rows := by
  obtain ⟨⟨row', index'⟩, last, same⟩ := Option.map_eq_some_iff.mp found
  obtain ⟨rfl, rfl⟩ := Prod.mk.inj same
  exact List.fst_mem_of_mem_zipIdx (List.mem_reverse.mp (List.mem_of_find?_eq_some last))

/-- Whatever a locator finds, a fragment is indented like one of the rows or a little deeper. -/
theorem isIndentAmong_locate {locator : Locator} {rows : List Text} {anchor : Anchor}
    (found : locator.locate rows = some anchor) : IsIndentAmong rows anchor.indent := by
  cases locator with
  | importBlockEnd =>
    obtain ⟨range, -, rfl⟩ := Option.map_eq_some_iff.mp found
    exact .inl rfl
  | topOfFile =>
    obtain rfl := Option.some.inj found
    exact .inl rfl
  | endOfFile =>
    obtain rfl := Option.some.inj found
    exact .inl rfl
  | beforeLastClosingBrace =>
    obtain ⟨⟨index, row⟩, last, rfl⟩ := Option.map_eq_some_iff.mp found
    exact .inr ⟨row, mem_of_lastRow? last, .inr rfl⟩
  | beforeLine pattern =>
    obtain ⟨⟨row, index⟩, first, rfl⟩ := Option.map_eq_some_iff.mp found
    exact .inr ⟨row, List.fst_mem_of_mem_zipIdx (List.mem_of_find?_eq_some first), .inl rfl⟩
  | afterLastLine pattern =>
    obtain ⟨⟨index, row⟩, last, rfl⟩ := Option.map_eq_some_iff.mp found
    refine .inr ⟨row, mem_of_lastRow? last, .inl ?_⟩
    dsimp only
    split <;> rfl
  | beforeDefinition name =>
    obtain ⟨range, -, rfl⟩ := Option.map_eq_some_iff.mp found
    exact .inl rfl
  | insideElement tag opener definition =>
    simp only [Locator.locate, insideElement] at found
    split at found
    · simp at found
    · rcases isIndentAmong_closingRow? found with none' | ⟨row, member, same⟩
      · exact .inl none'
      · exact .inr ⟨row, List.mem_of_mem_take (List.mem_of_mem_drop (List.mem_of_mem_drop member)),
          same⟩

theorem isSome_firstAnchor? {chain : List Locator} {locator : Locator} (member : locator ∈ chain)
    {rows : List Text} (found : (locator.locate rows).isSome = true) :
    (firstAnchor? rows chain).isSome = true := by
  rw [firstAnchor?, List.findSome?_isSome_iff]
  refine ⟨locator, member, ?_⟩
  rwa [Option.isSome_map]

/-- Every kind of fragment has a place that every file has. -/
theorem Primitive.isSome_firstAnchor? (primitive : Primitive) (rows : List Text) :
    (Code.firstAnchor? rows primitive.chain).isSome = true := by
  have top : (Locator.topOfFile.locate rows).isSome = true := rfl
  have bottom : (Locator.endOfFile.locate rows).isSome = true := rfl
  cases primitive with
  | importStatement => exact Code.isSome_firstAnchor? (by simp [chain]) top
  | _ => exact Code.isSome_firstAnchor? (by simp [chain]) bottom

theorem isIndentAmong_firstAnchor? {rows : List Text} {chain : List Locator} {locator : Locator}
    {anchor : Anchor} (found : firstAnchor? rows chain = some (locator, anchor)) :
    IsIndentAmong rows anchor.indent := by
  obtain ⟨other, -, tried⟩ := List.exists_of_findSome?_eq_some found
  obtain ⟨anchor', located, same⟩ := Option.map_eq_some_iff.mp tried
  obtain ⟨rfl, rfl⟩ := Prod.mk.inj same
  exact isIndentAmong_locate located

/-! ### The content after an insertion -/

/-- The solid rows of a content into which a fragment is spliced are its own ones with those of the
fragment between them. -/
theorem flatMap_splice {anchor : Anchor} (blank : isBlankText anchor.indent = true)
    (rows : List Text) (fragment : Text) (pad : Bool) :
    (splice rows anchor fragment pad).flatMap solidRows =
      (rows.take anchor.index).flatMap solidRows ++ solidRows fragment ++
        (rows.drop anchor.index).flatMap solidRows := by
  have padding (wanted : Bool) : (if wanted then [[]] else []).flatMap solidRows = [] := by
    cases wanted <;> rfl
  rw [splice]
  simp only [List.flatMap_append, padding, flatMap_rendered blank, List.append_nil]

theorem insert?_of_not_contains {content fragment : Text}
    (missing : contains content fragment = false)
    {chain : List Locator} {pad : Bool} {insertion : Insertion}
    (inserted : insert? content fragment chain pad = some insertion) :
    ∃ locator anchor, firstAnchor? (contentRows content) chain = some (locator, anchor) ∧
      insertion.locator = some locator ∧
      insertion.content = joinLines (splice (contentRows content) anchor fragment pad) ++
        if content.isEmpty || content.getLast? = some '\n' then ['\n'] else [] := by
  rw [insert?, missing, if_neg Bool.false_ne_true] at inserted
  obtain ⟨⟨locator, anchor⟩, found, rfl⟩ := Option.map_eq_some_iff.mp inserted
  refine ⟨locator, anchor, found, rfl, ?_⟩
  dsimp only
  split
  · rfl
  · rw [List.append_nil]

/-- The solid rows of a content after an insertion that is made. -/
theorem solidRows_insert? {content fragment : Text} (missing : contains content fragment = false)
    {chain : List Locator} {pad : Bool} {insertion : Insertion}
    (inserted : insert? content fragment chain pad = some insertion) :
    ∃ locator anchor, firstAnchor? (contentRows content) chain = some (locator, anchor) ∧
      solidRows insertion.content =
        ((contentRows content).take anchor.index).flatMap solidRows ++ solidRows fragment ++
          ((contentRows content).drop anchor.index).flatMap solidRows := by
  obtain ⟨locator, anchor, found, -, content'⟩ := insert?_of_not_contains missing inserted
  refine ⟨locator, anchor, found, ?_⟩
  rw [content', solidRows_append_right, solidRows_joinLines,
    flatMap_splice (isIndentAmong_firstAnchor? found).isBlankText]
  split
  · decide
  · rfl

/-- After an insertion the content holds the fragment. -/
theorem contains_of_insert? {content fragment : Text} {chain : List Locator} {pad : Bool}
    {insertion : Insertion} (inserted : insert? content fragment chain pad = some insertion) :
    contains insertion.content fragment = true := by
  cases held : contains content fragment with
  | true =>
    rw [insert?, held, if_pos rfl] at inserted
    obtain rfl := Option.some.inj inserted
    exact held
  | false =>
    obtain ⟨locator, anchor, -, rows⟩ := solidRows_insert? held inserted
    exact contains_of_solidRows rows

theorem rendered_ne_nil (fragment indent : Text) : rendered fragment indent ≠ [] := by
  rw [rendered]
  exact mt List.map_eq_nil_iff.mp (splitOn_ne_nil '\n' _)

theorem length_lt_splice (rows : List Text) (anchor : Anchor) (fragment : Text) (pad : Bool) :
    rows.length < (splice rows anchor fragment pad).length := by
  have block := List.length_pos_iff.mpr (rendered_ne_nil fragment anchor.indent)
  have parts := congrArg List.length (List.take_append_drop anchor.index rows)
  rw [List.length_append] at parts
  rw [splice]
  simp only [List.length_append]
  omega

/-- An insertion that is made adds a newline at least. -/
theorem count_lt_of_insert? {content fragment : Text} (missing : contains content fragment = false)
    {chain : List Locator} {pad : Bool} {insertion : Insertion}
    (inserted : insert? content fragment chain pad = some insertion) :
    content.count '\n' < insertion.content.count '\n' := by
  obtain ⟨locator, anchor, -, -, content'⟩ := insert?_of_not_contains missing inserted
  have spliced := length_lt_splice (contentRows content) anchor fragment pad
  have joined := length_le_count_joinLines (splice (contentRows content) anchor fragment pad)
  have cut := length_splitOn '\n' content
  rw [content', List.count_append]
  by_cases ends : content.getLast? = some '\n'
  · have shorter : (contentRows content).length = content.count '\n' := by
      rw [contentRows, if_pos ends, List.length_dropLast, cut, Nat.add_sub_cancel]
    rw [ends, if_pos (by simp), List.count_cons_self, List.count_nil]
    omega
  · have whole : (contentRows content).length = content.count '\n' + 1 := by
      rw [contentRows, if_neg ends, cut]
    omega

/-- A fragment of any kind can be inserted into any content. -/
theorem Primitive.exists_insert? (primitive : Primitive) (content fragment : Text) :
    ∃ insertion, primitive.insert? content fragment = some insertion := by
  rw [Primitive.insert?, Code.insert?]
  split
  · exact ⟨_, rfl⟩
  · obtain ⟨found, at'⟩ :=
      Option.isSome_iff_exists.mp (primitive.isSome_firstAnchor? (contentRows content))
    rw [at']
    exact ⟨_, rfl⟩

end GuidedMigration.Code

namespace GuidedMigration.Target

/-- No insertion is refused: there is a place for the fragment, and it is found there. -/
theorem exists_inserted (primitive : Code.Primitive) (label content fragment : Text) :
    ∃ insertion, primitive.insert? content fragment = some insertion ∧
      inserted primitive label content fragment = .ok insertion := by
  obtain ⟨insertion, found⟩ := primitive.exists_insert? content fragment
  refine ⟨insertion, found, ?_⟩
  have held : Code.contains insertion.content fragment = true := Code.contains_of_insert? found
  rw [inserted, found]
  exact if_pos held

end GuidedMigration.Target
