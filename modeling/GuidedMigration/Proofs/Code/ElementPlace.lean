/-
This file says when a fragment that goes into an element goes in front of the closing tag of that
element. The search adds up, row by row, the tags that it sees. While it sees of each row how many
elements are opened there, the sum stays positive up to the row of the closing tag and falls to zero
there, unless further elements are opened behind it. The element must not end in the row in which it
begins, where the search does not stop.
-/
import GuidedMigration.Proofs.Code.TagRows
import GuidedMigration.Proofs.Text.Lines

namespace GuidedMigration.Code

open Text

/-! ### Open elements -/

/-- How many more elements are open behind parts than in front of them. -/
def balance : List TagPart → Int
  | [] => 0
  | part :: parts => part.weight + balance parts

/-- Whether elements that are opened in parts are closed there, and no others. -/
structure IsNested (parts : List TagPart) : Prop where
  opened : ∀ count ≤ parts.length, 0 ≤ balance (parts.take count)
  settled : balance parts = 0

/-- Whether the tags that are seen in a row, but one of them if the row ends like a tag that closes
itself, are as many as the opening tags that begin there. -/
def IsCounted (row : Text) (parts : List TagPart) : Prop :=
  let seen := (parts.filter (·.isSeen)).length
  (if 0 < seen && endsWith ['/', '>'] (trimRight row) then seen - 1 else seen) =
    (parts.filter (·.isOpening)).length

instance (row : Text) (parts : List TagPart) : Decidable (IsCounted row parts) :=
  inferInstanceAs (Decidable (_ = _))

theorem balance_append (left right : List TagPart) :
    balance (left ++ right) = balance left + balance right := by
  induction left with
  | nil => exact (Int.zero_add _).symm
  | cons part left inductionHypothesis =>
    rw [List.cons_append, balance, inductionHypothesis, balance, Int.add_assoc]

theorem balance_eq (parts : List TagPart) :
    balance parts =
      ((parts.filter (·.isOpening)).length : Int) - (parts.filter (·.isClosing)).length := by
  induction parts with
  | nil => rfl
  | cons part parts inductionHypothesis =>
    rw [balance, inductionHypothesis]
    cases part <;> simp [TagPart.weight, TagPart.isOpening, TagPart.isClosing] <;> omega

theorem balance_of_weightless {parts : List TagPart} (alone : ∀ part ∈ parts, part.weight = 0) :
    balance parts = 0 := by
  induction parts with
  | nil => rfl
  | cons part parts inductionHypothesis =>
    rw [List.forall_mem_cons] at alone
    rw [balance, alone.1, inductionHypothesis alone.2, Int.zero_add]

/-- Of nested parts, no first ones close more elements than they open. -/
theorem IsNested.balance_nonneg {parts front : List TagPart} (nested : IsNested parts)
    (among : front <+: parts) : 0 ≤ balance front := by
  rw [List.prefix_iff_eq_take.mp among]
  exact nested.opened _ among.length_le

/-! ### The search for the closing row -/

variable {tag : Text} {index : Nat} {depth : Int} {upper lower : List Text} {row : Text}

/-- How many elements rows leave open, as far as the search sees. -/
def rowsBalance (tag : Text) : List Text → Int
  | [] => 0
  | row :: rows => tagBalance tag row + rowsBalance tag rows

theorem rowsBalance_concat (tag : Text) (rows : List Text) (row : Text) :
    rowsBalance tag (rows ++ [row]) = rowsBalance tag rows + tagBalance tag row := by
  induction rows with
  | nil => exact (Int.add_comm _ _)
  | cons first rows inductionHypothesis =>
    rw [List.cons_append, rowsBalance, inductionHypothesis, rowsBalance, Int.add_assoc]

/-- Rows that are counted leave as many elements open as the parts that begin in them. -/
theorem rowsBalance_eq {rows : List Text} {begun : List (List TagPart)}
    (counted : rows.map (tagBalance tag) = begun.map balance) :
    rowsBalance tag rows = balance begun.flatten := by
  induction rows generalizing begun with
  | nil =>
    obtain rfl := List.map_eq_nil_iff.mp counted.symm
    rfl
  | cons row rows inductionHypothesis =>
    obtain ⟨here, begun, rfl, same, behind⟩ := List.map_eq_cons_iff.mp counted.symm
    rw [rowsBalance, inductionHypothesis behind.symm, List.flatten_cons, balance_append, same]

/-- While elements are open, the search goes on. -/
theorem closingRow?_append {isFirst : Bool} (some' : upper ≠ [])
    (opened : ∀ count ≤ upper.length, 0 < count → 0 < depth + rowsBalance tag (upper.take count)) :
    closingRow? tag index depth isFirst (upper ++ lower) =
      closingRow? tag (index + upper.length) (depth + rowsBalance tag upper) false lower := by
  induction upper generalizing index depth isFirst with
  | nil => exact absurd rfl some'
  | cons row upper inductionHypothesis =>
    -- An element is open behind the first row, so that it is not the closing one.
    have here : ¬ (depth + tagBalance tag row ≤ 0) := by
      have first := opened 1 (by simp) Nat.one_pos
      rw [List.take_succ_cons, List.take_zero, rowsBalance, rowsBalance] at first
      omega
    rw [List.cons_append, closingRow?]
    simp only [here, decide_false, Bool.false_and, if_neg Bool.false_ne_true]
    by_cases more : upper = []
    · simp [more, rowsBalance]
    · have further (count : Nat) (bound : count ≤ upper.length) (_ : 0 < count) :
          0 < depth + tagBalance tag row + rowsBalance tag (upper.take count) := by
        have next := opened (count + 1) (by simpa using bound) (Nat.succ_pos count)
        rw [List.take_succ_cons, rowsBalance] at next
        omega
      rw [inductionHypothesis more further, rowsBalance, List.length_cons, Nat.add_right_comm,
        ← Nat.add_assoc, Int.add_assoc]

/-- So the first row behind which no element is open is the closing one. -/
theorem closingRow?_append_cons {isFirst : Bool} (some' : upper ≠ [])
    (opened : ∀ count ≤ upper.length, 0 < count → 0 < rowsBalance tag (upper.take count)) :
    closingRow? tag index 0 isFirst (upper ++ row :: lower) =
      if rowsBalance tag (upper ++ [row]) ≤ 0 then
        some ⟨index + upper.length, indentOf row ++ [' ', ' ']⟩
      else closingRow? tag (index + upper.length + 1) (rowsBalance tag (upper ++ [row])) false
        lower := by
  rw [closingRow?_append some' (by simpa using opened), closingRow?, rowsBalance_concat,
    Int.zero_add]
  simp only [Bool.not_false, Bool.and_true, decide_eq_true_eq]

/-- The row found is among those that are searched, and not the first one. -/
theorem index_of_closingRow? {rows : List Text} {isFirst : Bool} {anchor : Anchor}
    (found : closingRow? tag index depth isFirst rows = some anchor) :
    (if isFirst then index < anchor.index else index ≤ anchor.index) ∧
      anchor.index < index + rows.length := by
  induction rows generalizing index depth isFirst with
  | nil => cases found
  | cons row rows inductionHypothesis =>
    rw [closingRow?] at found
    rw [List.length_cons]
    split at found
    · rename_i here
      have later : isFirst = false := by simpa using (Bool.and_eq_true_iff.mp here).2
      rw [← Option.some.inj found, later]
      exact ⟨Nat.le_refl _, Nat.lt_add_of_pos_right (Nat.succ_pos _)⟩
    · obtain ⟨from', below⟩ := inductionHypothesis found
      rw [if_neg Bool.false_ne_true] at from'
      constructor
      · split <;> omega
      · omega

/-- The first and the last row in which an element is searched. -/
def searchRange (definition : Option Text) (rows : List Text) : Option (Nat × Nat) :=
  match definition.filter (!·.isEmpty) with
  | some name => definitionRange name rows
  | none => some (0, rows.length - 1)

theorem insideElement_eq_bind (tag : Text) (opener definition : Option Text) (rows : List Text) :
    insideElement tag opener definition rows =
      (searchRange definition rows).bind fun (low, high) =>
        let body := (rows.take (high + 1)).drop low
        let before := body.takeWhile (!opensElement tag (opener.filter (!·.isEmpty)) ·)
        closingRow? tag (low + before.length) 0 true (body.drop before.length) := by
  unfold insideElement searchRange
  cases definition.filter (!·.isEmpty) with
  | none => rfl
  | some name =>
    dsimp only
    cases definitionRange name rows <;> rfl

/-- The search starts in the first row that opens an element. -/
theorem insideElement_eq_closingRow? {opener definition : Option Text} {rows : List Text}
    {low high first : Nat} (range : searchRange definition rows = some (low, high))
    (behind : low ≤ first) (within : first ≤ high) (bound : first < rows.length)
    (opens : opensElement tag (opener.filter (!·.isEmpty)) (rows.getD first []) = true)
    (unopened : ∀ row ∈ (rows.take first).drop low,
      opensElement tag (opener.filter (!·.isEmpty)) row = false) :
    insideElement tag opener definition rows =
      closingRow? tag first 0 true ((rows.take (high + 1)).drop first) := by
  have cut : (rows.take (high + 1)).drop low =
      (rows.take first).drop low ++ (rows.take (high + 1)).drop first := by
    have upper : rows.take first = (rows.take (high + 1)).take first := by
      rw [List.take_take, Nat.min_eq_left (Nat.le_succ_of_le within)]
    have size : low ≤ ((rows.take (high + 1)).take first).length := by
      rw [← upper, List.length_take]
      omega
    rw [upper, ← List.drop_append_of_le_length size, List.take_append_drop]
  have here : (rows.take (high + 1)).drop first =
      rows.getD first [] :: (rows.take (high + 1)).drop (first + 1) := by
    rw [List.drop_eq_getElem_cons (by rw [List.length_take]; omega), List.getElem_take,
      List.getD_eq_getElem?_getD, List.getElem?_eq_getElem bound, Option.getD_some]
  have searched : ((rows.take (high + 1)).drop low).takeWhile
      (!opensElement tag (opener.filter (!·.isEmpty)) ·) = (rows.take first).drop low := by
    rw [cut, List.takeWhile_append_of_pos fun row member => by rw [unopened row member]; rfl,
      here, List.takeWhile_cons_of_neg (by rw [opens]; exact Bool.false_ne_true), List.append_nil]
  have size : low + ((rows.take first).drop low).length = first := by
    rw [List.length_drop, List.length_take]
    omega
  rw [insideElement_eq_bind, range, Option.bind_some]
  simp only [searched, size]
  rw [cut, List.drop_left]

/-! ### Rows that are counted -/

/-- The sum of a row that is counted is how many more elements are open behind it. -/
theorem tagBalance_of_counted {parts here : List TagPart} (named : IsTagName tag)
    (faithful : isFaithful tag parts = true)
    (written : (splitOn '\n' (shownParts tag parts))[index]? = some row)
    (begun : (tagRows tag parts)[index]? = some here) (counted : IsCounted row here) :
    tagBalance tag row = balance here := by
  have opened := congrArg (·[index]?) (rowCounts_openingTag named faithful)
  have closed' := congrArg (·[index]?) (rowCounts_closingTag named faithful)
  simp only [partCounts, List.getElem?_map, written, begun, Option.map_some, Option.some.injEq]
    at opened closed'
  rw [tagBalance, balance_eq, opened, closed']
  exact congrArg (fun count : Nat => (count : Int) - _) counted

theorem IsTagName.breaks_closing (named : IsTagName tag) :
    breaks (TagPart.closing.shown tag) = 0 := by
  have inRow := named.inRow
  rw [List.mem_cons, not_or] at inRow
  exact List.count_eq_zero.mpr (by simpa [shown_closing] using inRow.2)

/-! ### An element and what stands around it -/

/-- A text with an element in it, in which the elements of the same tag are nested. -/
structure TagDocument (tag : Text) where
  above : List TagPart
  attributes : Text
  inside : List TagPart
  below : List TagPart
  named : IsTagName tag
  nested : IsNested inside
  faithful : isFaithful tag (above ++ .opening attributes :: inside ++ .closing :: below) = true

namespace TagDocument

variable (document : TagDocument tag)

/-- The element up to its closing tag, and all that stands in front of it. -/
def leading : List TagPart := document.above ++ .opening document.attributes :: document.inside

def parts : List TagPart := document.leading ++ .closing :: document.below

def rows : List Text := splitOn '\n' (shownParts tag document.parts)

/-- The row in which the element is opened. -/
def first : Nat := breaks (shownParts tag document.above)

/-- The row of the closing tag. -/
def last : Nat := breaks (shownParts tag document.leading)

/-- What begins in front of the opening tag in its row. -/
def before : List TagPart := (tagRows tag document.above).getLastD []

/-- What begins inside the element in the row of the closing tag. -/
def front : List TagPart := (tagRows tag document.inside).getLastD []

/-- What begins behind the closing tag in its row. -/
def behind : List TagPart := (tagRows tag document.below).headD []

/-- Whether the closing tag of the element is in a row, and what is put in front of that row is in
the element and in no other one that is opened behind it. -/
def IsInside (index : Nat) : Prop :=
  (∃ lead trail, document.rows[index]? = some (lead ++ closingTag tag ++ trail) ∧
    shownParts tag document.leading = closed (document.rows.take index) ++ lead) ∧
  balance ((tagRows tag document.parts).take index).flatten = balance document.above + 1

theorem exists_openingRows : ∃ own rest,
    tagRows tag (.opening document.attributes :: document.inside) =
      (.opening document.attributes :: own) :: rest ∧
    own ++ rest.flatten = document.inside ∧
    (rest ≠ [] → rest.getLast? = some document.front) := by
  obtain ⟨own, rest, inner⟩ := List.exists_cons_of_ne_nil
    (l := List.replicate (breaks ((TagPart.opening document.attributes).shown tag)) [] ++
      tagRows tag document.inside) (by simp [tagRows_ne_nil])
  refine ⟨own, rest, by rw [tagRows, inner, pushPart], ?_, fun more => ?_⟩
  · rw [← flatten_tagRows tag document.inside, ← List.flatten_cons, ← inner]
    simp
  · obtain ⟨next, rest, rfl⟩ := List.exists_cons_of_ne_nil more
    rw [← List.getLast?_cons_cons, ← inner, front, List.getLast?_append,
      List.getLast?_eq_some_getLast (tagRows_ne_nil tag _), Option.some_or]
    simp [List.getLastD_eq_getLast?, List.getLast?_eq_some_getLast (tagRows_ne_nil tag _)]

/-- The rows of an element: the opening tag goes on the last row above it, and the closing tag is in
the last row of what is inside. -/
theorem exists_tagRows : ∃ upper middle front lower own rest,
    tagRows tag document.above = upper ++ [document.before] ∧
    tagRows tag document.leading = upper ++ middle ++ [front] ∧
    tagRows tag document.parts =
      upper ++ middle ++ (front ++ .closing :: document.behind) :: lower ∧
    middle ++ [front] = (document.before ++ .opening document.attributes :: own) :: rest ∧
    own ++ rest.flatten = document.inside ∧
    (rest ≠ [] → rest.getLast? = some document.front) := by
  obtain ⟨upper, before, above⟩ := (List.eq_nil_or_concat (tagRows tag document.above)).resolve_left
    (tagRows_ne_nil tag _)
  rw [List.concat_eq_append] at above
  obtain rfl : document.before = before := by simp [TagDocument.before, above]
  obtain ⟨own, rest, opened, inside, ends⟩ := document.exists_openingRows
  obtain ⟨middle, front, cut⟩ := (List.eq_nil_or_concat
    ((document.before ++ .opening document.attributes :: own) :: rest)).resolve_left (by simp)
  rw [List.concat_eq_append] at cut
  have leading := tagRows_append above opened
  rw [cut, ← List.append_assoc] at leading
  obtain ⟨behind, lower, below⟩ := List.exists_cons_of_ne_nil (tagRows_ne_nil tag document.below)
  obtain rfl : document.behind = behind := by rw [TagDocument.behind, below, List.headD_cons]
  have closing : tagRows tag (.closing :: document.below) =
      (.closing :: document.behind) :: lower := by
    rw [tagRows, document.named.breaks_closing, List.replicate_zero, List.nil_append, below,
      pushPart]
  exact ⟨upper, middle, front, lower, own, rest, above, leading, tagRows_append leading closing,
    cut.symm, inside, ends⟩

/-- The element is open from the row of its opening tag on, until the closing tag. -/
theorem exists_balances (alone : ∀ part ∈ document.before, part.weight = 0) :
    ∃ upper middle front lower,
      tagRows tag document.parts =
        upper ++ middle ++ (front ++ .closing :: document.behind) :: lower ∧
      upper.length = document.first ∧ document.first + middle.length = document.last ∧
      balance upper.flatten = balance document.above ∧
      balance middle.flatten + balance front = 1 ∧
      (∀ count ≤ middle.length, 0 < count → 0 < balance (middle.take count).flatten) ∧
      (middle ≠ [] → front = document.front) := by
  obtain ⟨upper, middle, front, lower, own, rest, above, leading, parts, cut, inside, ends⟩ :=
    document.exists_tagRows
  have size : upper.length = document.first := by
    have size := length_tagRows tag document.above
    rw [above, List.length_append, List.length_singleton] at size
    exact Nat.add_right_cancel size
  have unweighted := balance_of_weightless alone
  have opening (inner : List TagPart) :
      balance (document.before ++ .opening document.attributes :: inner) = 1 + balance inner := by
    rw [balance_append, unweighted, balance, TagPart.weight, Int.zero_add]
  refine ⟨upper, middle, front, lower, parts, size, ?_, ?_, ?_, fun count bound positive => ?_,
    fun some' => ?_⟩
  · have size' := length_tagRows tag document.leading
    rw [leading, List.length_append, List.length_append, List.length_singleton, size] at size'
    exact Nat.add_right_cancel size'
  · have whole := flatten_tagRows tag document.above
    rw [above, List.flatten_append, List.flatten_singleton] at whole
    rw [← whole, balance_append, unweighted, Int.add_zero]
  · rw [← balance_append, ← List.flatten_concat, cut, List.flatten_cons, List.append_assoc,
      List.cons_append, inside, opening, document.nested.settled, Int.add_zero]
  · -- The first rows hold the opening tag and a first part of what is inside.
    obtain ⟨count, rfl⟩ := Nat.exists_eq_succ_of_ne_zero (Nat.ne_of_gt positive)
    have among : own ++ (rest.take count).flatten <+: document.inside := by
      rw [← inside]
      refine ⟨(rest.drop count).flatten, ?_⟩
      rw [List.append_assoc, ← List.flatten_append, List.take_append_drop]
    have taken : middle.take count.succ =
        (document.before ++ .opening document.attributes :: own) :: rest.take count := by
      rw [← List.take_succ_cons, ← cut, List.take_append_of_le_length bound]
    rw [taken, List.flatten_cons, List.append_assoc, List.cons_append, opening]
    exact Int.lt_of_lt_of_le Int.zero_lt_one
      (Int.le_add_of_nonneg_right (document.nested.balance_nonneg among))
  · obtain ⟨row, middle, rfl⟩ := List.exists_cons_of_ne_nil some'
    obtain ⟨-, rfl⟩ := List.cons.inj cut
    simpa using ends (by simp)

/-! ### The row of the closing tag -/

/-- The text up to the closing tag ends in the row of the tag. -/
theorem exists_rows : ∃ lead trail lower,
    document.rows = document.rows.take document.last ++ (lead ++ closingTag tag ++ trail) :: lower ∧
      (document.rows.take document.last).length = document.last ∧
      shownParts tag document.leading = closed (document.rows.take document.last) ++ lead := by
  obtain ⟨upper, lead, clean, inRow, cut⟩ := exists_closed (shownParts tag document.leading)
  have size : upper.length = document.last := by
    rw [last, breaks, cut, List.count_append, count_closed clean, List.count_eq_zero.mpr inRow,
      Nat.add_zero]
  have shown : shownParts tag document.parts =
      closed upper ++ (lead ++ closingTag tag ++ shownParts tag document.below) := by
    rw [parts, shownParts, List.flatMap_append, ← shownParts, cut, List.flatMap_cons, ← shownParts,
      show TagPart.closing.shown tag = closingTag tag from rfl]
    simp only [List.append_assoc]
  have inRow' : '\n' ∉ lead ++ closingTag tag := by
    rw [List.mem_append, not_or]
    exact ⟨inRow, List.count_eq_zero.mp document.named.breaks_closing⟩
  obtain ⟨row, lower, split⟩ := List.exists_cons_of_ne_nil
    (splitOn_ne_nil '\n' (lead ++ closingTag tag ++ shownParts tag document.below))
  have trail := firstRow_append inRow' (shownParts tag document.below)
  rw [firstRow, split, List.headD_cons] at trail
  have rows : document.rows = upper ++ row :: lower := by
    rw [TagDocument.rows, shown, splitOn_closed_append clean, split]
  have taken : document.rows.take document.last = upper := by rw [rows, ← size, List.take_left]
  exact ⟨lead, _, lower, by rw [taken, rows, trail], by rw [taken, size], by rw [taken, cut]⟩

theorem first_le_last : document.first ≤ document.last := by
  rw [first, last, breaks, breaks, leading, shownParts, shownParts, List.flatMap_append,
    List.count_append]
  exact Nat.le_add_right ..

theorem last_lt_length : document.last < document.rows.length := by
  rw [rows, length_splitOn, last, breaks, parts, shownParts, shownParts, List.flatMap_append,
    List.count_append]
  exact Nat.lt_succ_of_le (Nat.le_add_right ..)

theorem length_tagRows_parts : (tagRows tag document.parts).length = document.rows.length := by
  rw [length_tagRows, rows, length_splitOn, breaks]

/-- As many newlines stand in front of the closing tag as there are rows above it. -/
theorem eq_last_of_cut {index : Nat} {lead trail : Text}
    (row : document.rows[index]? = some (lead ++ closingTag tag ++ trail))
    (cut : shownParts tag document.leading = closed (document.rows.take index) ++ lead) :
    index = document.last := by
  have clean : ∀ row ∈ document.rows, '\n' ∉ row := fun row => not_mem_of_mem_splitOn
  have inRow : '\n' ∉ lead := fun member =>
    clean _ (List.mem_of_getElem? row) (by simp [member])
  obtain ⟨bound, -⟩ := List.getElem?_eq_some_iff.mp row
  rw [last, breaks, cut, List.count_append,
    count_closed fun row member => clean row (List.mem_of_mem_take member),
    List.count_eq_zero.mpr inRow, List.length_take, Nat.add_zero,
    Nat.min_eq_left (Nat.le_of_lt bound)]

/-- What is put in front of a row is in the element exactly if the row is that of its closing tag,
the element begins further up, and those opened in it are closed further up as well. -/
theorem isInside_iff (alone : ∀ part ∈ document.before, part.weight = 0) {index : Nat} :
    document.IsInside index ↔
      index = document.last ∧ document.first < document.last ∧ balance document.front = 0 := by
  obtain ⟨upper, middle, front, lower, rows, size, size', outer, own, opened, ends⟩ :=
    document.exists_balances alone
  have above : balance ((tagRows tag document.parts).take document.last).flatten =
      balance document.above + balance middle.flatten := by
    rw [rows, ← size', ← size, ← List.length_append, List.take_left, List.flatten_append,
      balance_append, outer]
  constructor
  · rintro ⟨⟨lead, trail, row, cut⟩, inside⟩
    obtain rfl := document.eq_last_of_cut row cut
    rw [above] at inside
    have some' : middle ≠ [] := by
      rintro rfl
      exact absurd (Int.add_left_cancel inside) (by decide)
    have positive := List.length_pos_iff.mpr some'
    refine ⟨rfl, by omega, ?_⟩
    rw [← ends some']
    omega
  · rintro ⟨rfl, later, even⟩
    have some' : middle ≠ [] := List.length_pos_iff.mp (by omega)
    obtain ⟨lead, trail, lower, rows, size, cut⟩ := document.exists_rows
    refine ⟨⟨lead, trail, ?_, cut⟩, ?_⟩
    · rw [rows, List.getElem?_append_right (Nat.le_of_eq size), size, Nat.sub_self]
      rfl
    · rw [← ends some'] at even
      rw [above]
      omega

/-! ### The element that is chosen -/

/-- Whether the opening row of the element is the first one that the search accepts, among the rows
between two others, and no tag in front of it in that row opens or closes an element. -/
structure IsChosen (opener definition : Option Text) (low high : Nat) : Prop where
  range : searchRange definition document.rows = some (low, high)
  from' : low ≤ document.first
  within : document.first ≤ high
  opens :
    opensElement tag (opener.filter (!·.isEmpty)) (document.rows.getD document.first []) = true
  unopened : ∀ row ∈ (document.rows.take document.first).drop low,
    opensElement tag (opener.filter (!·.isEmpty)) row = false
  alone : ∀ part ∈ document.before, part.weight = 0

/-- Whether each row of the element is counted. -/
def IsSeen : Prop :=
  ∀ index, document.first ≤ index → index ≤ document.last →
    IsCounted (document.rows.getD index []) ((tagRows tag document.parts).getD index [])

variable {document}

/-- The sums of the rows of the element are those of the parts that begin in them. -/
theorem IsSeen.map_tagBalance (seen : document.IsSeen) {size : Nat}
    (bound : document.first + size ≤ document.last + 1) :
    ((document.rows.drop document.first).take size).map (tagBalance tag) =
      (((tagRows tag document.parts).drop document.first).take size).map balance := by
  refine List.ext_getElem? fun index => ?_
  rw [List.getElem?_map, List.getElem?_map, List.getElem?_take, List.getElem?_take]
  split
  · rw [List.getElem?_drop, List.getElem?_drop]
    have counted := seen (document.first + index) (Nat.le_add_right ..) (by omega)
    rw [List.getD_eq_getElem?_getD, List.getD_eq_getElem?_getD] at counted
    cases written : document.rows[document.first + index]? with
    | none =>
      rw [List.getElem?_eq_none_iff, ← length_tagRows_parts, ← List.getElem?_eq_none_iff] at written
      rw [written]
      rfl
    | some row =>
      obtain ⟨inRows, -⟩ := List.getElem?_eq_some_iff.mp written
      rw [← length_tagRows_parts] at inRows
      have begun := List.getElem?_eq_getElem inRows
      rw [written, begun] at counted
      rw [begun, Option.map_some, Option.map_some,
        tagBalance_of_counted document.named document.faithful written begun counted]
  · rfl

/-- While the element is open, the sum is positive, and then it is what stays open behind it. -/
theorem IsSeen.sums (seen : document.IsSeen)
    (alone : ∀ part ∈ document.before, part.weight = 0) :
    (∀ count, document.first + count ≤ document.last → 0 < count →
      0 < rowsBalance tag ((document.rows.drop document.first).take count)) ∧
    ∀ count, document.first + count = document.last → 0 < count →
      rowsBalance tag ((document.rows.drop document.first).take (count + 1)) =
        balance document.behind := by
  obtain ⟨upper, middle, front, lower, cut, size, size', -, own, opened, -⟩ :=
    document.exists_balances alone
  have begun : (tagRows tag document.parts).drop document.first =
      middle ++ (front ++ .closing :: document.behind) :: lower := by
    rw [cut, ← size, List.append_assoc, List.drop_left]
  constructor
  · intro count bound positive
    have bound' : count ≤ middle.length := by omega
    rw [rowsBalance_eq (seen.map_tagBalance (by omega)), begun,
      List.take_append_of_le_length bound']
    exact opened count bound' positive
  · intro count bound positive
    obtain rfl : count = middle.length := by omega
    rw [rowsBalance_eq (seen.map_tagBalance (by omega)), begun, List.take_length_add_append,
      List.take_succ_cons, List.take_zero, List.flatten_append, List.flatten_singleton,
      balance_append, balance_append, balance, TagPart.weight]
    omega

/-- The search gets to the row of the closing tag, and ends there unless an element is opened behind
the tag that stays open. -/
theorem IsChosen.insideElement_eq {opener definition : Option Text} {low high : Nat}
    (chosen : document.IsChosen opener definition low high) (seen : document.IsSeen)
    (later : document.first < document.last) (within : document.last ≤ high) :
    ∃ row rest, insideElement tag opener definition document.rows =
      if balance document.behind ≤ 0 then some ⟨document.last, indentOf row ++ [' ', ' ']⟩
      else closingRow? tag (document.last + 1) (balance document.behind) false rest := by
  obtain ⟨count, size⟩ := Nat.exists_eq_add_of_le (Nat.le_of_lt later)
  obtain ⟨opened, whole⟩ := seen.sums chosen.alone
  have bound := document.last_lt_length
  have inRows : count < (document.rows.drop document.first).length := by
    rw [List.length_drop]
    omega
  obtain ⟨row, rest, searched, closing⟩ : ∃ row rest,
      (document.rows.take (high + 1)).drop document.first =
        (document.rows.drop document.first).take count ++ row :: rest ∧
      (document.rows.drop document.first).take count ++ [row] =
        (document.rows.drop document.first).take (count + 1) := by
    refine ⟨(document.rows.drop document.first)[count],
      ((document.rows.drop document.first).drop (count + 1)).take (high - document.last), ?_,
      List.take_append_getElem inRows⟩
    have more : high + 1 - document.first = count + 1 + (high - document.last) := by omega
    rw [List.drop_take, more, List.take_add, ← List.take_append_getElem inRows, List.append_assoc,
      List.singleton_append]
  have length : ((document.rows.drop document.first).take count).length = count :=
    List.length_take_of_le (Nat.le_of_lt inRows)
  refine ⟨row, rest, ?_⟩
  rw [insideElement_eq_closingRow? chosen.range chosen.from' chosen.within (by omega) chosen.opens
    chosen.unopened, searched, closingRow?_append_cons (List.length_pos_iff.mp (by omega))
    fun more bound positive => ?_, closing, whole count size.symm (by omega), length, ← size]
  rw [List.take_take, Nat.min_eq_left (length ▸ bound)]
  exact opened more (by omega) positive

theorem IsChosen.index_le {opener definition : Option Text} {low high : Nat} {anchor : Anchor}
    (chosen : document.IsChosen opener definition low high)
    (found : insideElement tag opener definition document.rows = some anchor) :
    anchor.index ≤ high := by
  have bound : document.first < document.rows.length :=
    Nat.lt_of_le_of_lt document.first_le_last document.last_lt_length
  rw [insideElement_eq_closingRow? chosen.range chosen.from' chosen.within bound chosen.opens
    chosen.unopened] at found
  have below := (index_of_closingRow? found).2
  have within := chosen.within
  rw [List.length_drop, List.length_take] at below
  omega

/-- **The place inside an element.** What goes into the chosen element, each row of which is
counted, goes in front of the row of its closing tag and into no element in it, exactly if the
element begins further up, that row is among those that are searched, every element in it is closed
further up, and no element that is opened behind it in that row stays open. -/
theorem insideElement_iff {opener definition : Option Text} {low high : Nat}
    (chosen : document.IsChosen opener definition low high) (seen : document.IsSeen) :
    (∃ anchor, insideElement tag opener definition document.rows = some anchor ∧
      document.IsInside anchor.index) ↔
      document.first < document.last ∧ document.last ≤ high ∧ balance document.front = 0 ∧
        balance document.behind ≤ 0 := by
  simp only [document.isInside_iff chosen.alone]
  constructor
  · rintro ⟨anchor, found, here, later, even⟩
    have within : document.last ≤ high := here ▸ chosen.index_le found
    refine ⟨later, within, even, Int.not_lt.mp fun further => ?_⟩
    -- With an element open behind the closing tag, the search goes on below its row.
    obtain ⟨row, rest, searched⟩ := chosen.insideElement_eq seen later within
    rw [searched, if_neg (Int.not_le.mpr further)] at found
    have beyond := (index_of_closingRow? found).1
    rw [here, if_neg Bool.false_ne_true] at beyond
    exact Nat.not_succ_le_self _ beyond
  · rintro ⟨later, within, even, settled⟩
    obtain ⟨row, rest, searched⟩ := chosen.insideElement_eq seen later within
    exact ⟨_, searched.trans (if_pos settled), rfl, later, even⟩

/-! ### Layouts -/

/-- A container with an item in one row of its own. -/
def pageLayout : TagDocument "Grid".toList where
  above := [.other "const page = (\n  ".toList]
  attributes := " container".toList
  inside := [.other "\n    ".toList, .opening " item".toList, .other "x".toList, .closing,
    .other "\n  ".toList]
  below := [.other "\n);".toList]
  named := ⟨by decide, by decide, by decide, by decide⟩
  nested := ⟨by decide, by decide⟩
  faithful := by decide

theorem isChosen_pageLayout : pageLayout.IsChosen (some "container".toList) none 0 4 :=
  ⟨by decide, by decide, by decide, by decide, by decide, by decide⟩

theorem isSeen_pageLayout : pageLayout.IsSeen := by
  have first : pageLayout.first = 1 := by decide
  have last : pageLayout.last = 3 := by decide
  intro index from' to'
  obtain rfl | rfl | rfl : index = 1 ∨ index = 2 ∨ index = 3 := by omega
  all_goals decide

/-- What goes into the container of a page goes behind the item in it. -/
theorem insideElement_behind_item :
    ∃ anchor, insideElement "Grid".toList (some "container".toList) none pageLayout.rows =
      some anchor ∧ pageLayout.IsInside anchor.index :=
  (insideElement_iff isChosen_pageLayout isSeen_pageLayout).mpr
    ⟨by decide, by decide, by decide, by decide⟩

/-- A container with an item whose opening tag goes on over several rows. -/
def nestedLayout : TagDocument "Grid".toList where
  above := []
  attributes := " container".toList
  inside := [.other "\n  ".toList, .opening "\n    item\n  ".toList, .other "\n    x\n  ".toList,
    .closing, .other "\n".toList]
  below := []
  named := ⟨by decide, by decide, by decide, by decide⟩
  nested := ⟨by decide, by decide⟩
  faithful := by decide

/-- What goes into that container goes into the item. -/
theorem insideElement_in_nested :
    nestedLayout.rows = ["<Grid container>", "  <Grid", "    item", "  >", "    x", "  </Grid>",
      "</Grid>"].map (·.toList) ∧
    nestedLayout.IsChosen (some "container".toList) none 0 6 ∧
    (insideElement "Grid".toList (some "container".toList) none nestedLayout.rows).map (·.index) =
      some 5 ∧
    nestedLayout.last = 6 ∧ ¬ nestedLayout.IsInside 5 := by
  have chosen : nestedLayout.IsChosen (some "container".toList) none 0 6 :=
    ⟨by decide, by decide, by decide, by decide, by decide, by decide⟩
  have last : nestedLayout.last = 6 := by decide
  refine ⟨by decide, chosen, by decide, last, fun inside => ?_⟩
  exact absurd ((nestedLayout.isInside_iff chosen.alone).mp inside).1 (by rw [last]; decide)

end TagDocument

end GuidedMigration.Code
