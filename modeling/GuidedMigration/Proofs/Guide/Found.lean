/-
This file follows the search for blocks through a well fenced text. Quotes and list items hold
blocks of their own, so what the search finds is shown for blocks, for a block, and for the items of
a list at once, by induction on the fuel. Four steps of it are enough for each line and each depth.
-/
import GuidedMigration.Proofs.Guide.Reading

namespace GuidedMigration.Guide

open Text Markdown

variable {lines : List Text} {frame : Frame} {first stop index next fuel : Nat} {found : Found}
  {result further : Nat × Found}

/-- A search from an index on has reached another one, and has added what it found in between. -/
def Adds (lines : List Text) (count first : Nat) (found : Found) (result : Nat × Found) : Prop :=
  ∃ leaves, result.2.leaves = leaves ++ found.leaves ∧ Reads lines count first result.1 leaves

namespace Adds

variable {count : Nat}

theorem trans (old : Adds lines count first found result)
    (new : Adds lines count result.1 result.2 further) : Adds lines count first found further := by
  obtain ⟨older, added, read⟩ := old
  obtain ⟨newer, added', read'⟩ := new
  exact ⟨newer ++ older, by rw [added', added, List.append_assoc], read.append read'⟩

theorem reaches (adds : Adds lines count first found result) : first ≤ result.1 := by
  obtain ⟨_, -, read⟩ := adds
  exact read.reaches

theorem clear (adds : Adds lines count first found result) :
    openAt lines result.1 = none ∨ count ≤ result.1 := by
  obtain ⟨_, -, read⟩ := adds
  exact read.clear

/-- Nothing is added. -/
theorem none (read : Reads lines count first next []) :
    Adds lines count first found (next, found) :=
  ⟨[], rfl, read⟩

end Adds

/-! ### What is to be shown -/

/-- The fuel that a search from an index on needs, apart from what it needs at once. -/
def need (frame : Frame) (index : Nat) : Nat :=
  4 * (frame.rows.size - index) + 4 * (frame.dialect.depth - frame.level)

/-- A search for blocks reads the lines up to an index at which it may end, and it gets on where
there is an empty row or one that is not outside. -/
def BlocksRead (lines : List Text) (fuel : Nat) : Prop :=
  ∀ frame index stop found, Frame.Shows lines frame index stop →
    (openAt lines index = none ∨ frame.rows.size ≤ index) → need frame index + 3 ≤ fuel →
    Adds lines frame.rows.size index found (Frame.blocks fuel frame index stop found) ∧
      (stop ≤ (Frame.blocks fuel frame index stop found).1 ∨
        frame.isOutside (frame.row (Frame.blocks fuel frame index stop found).1) = true) ∧
      (index < stop →
        ((frame.row index).isEmpty = true ∨ frame.isOutside (frame.row index) = false) →
        index < (Frame.blocks fuel frame index stop found).1)

/-- What it is for a block to start at an index. -/
structure Starts (lines : List Text) (frame : Frame) (index stop : Nat) : Prop where
  shows : frame.Shows lines index stop
  before : index < stop
  clear : openAt lines index = none
  within : frame.isOutside (frame.row index) = false

/-- A search for one block reads its lines, at least one. -/
def BlockRead (lines : List Text) (fuel : Nat) : Prop :=
  ∀ frame index stop found, Starts lines frame index stop → need frame index + 2 ≤ fuel →
    Adds lines frame.rows.size index found (Frame.block fuel frame index stop found) ∧
      index < (Frame.block fuel frame index stop found).1

/-- A search for the items of a list reads their lines, at least one. -/
def ItemsRead (lines : List Text) (fuel : Nat) : Prop :=
  ∀ frame mark index stop found, Starts lines frame index stop → IsFree lines index →
    Frame.itemMark? (frame.row index).content = some mark → need frame index + 1 ≤ fuel →
    Adds lines frame.rows.size index found (Frame.items fuel frame mark index stop found) ∧
      index < (Frame.items fuel frame mark index stop found).1

namespace Starts

variable (starts : Starts lines frame index stop)
include starts

theorem inside : index < frame.rows.size := Nat.lt_of_lt_of_le starts.before starts.shows.stop_le

theorem deep : (frame.indent : Int) ≤ (frame.row index).column := by
  have within := starts.within
  rw [Frame.isOutside, decide_eq_false_iff_not] at within
  omega

theorem level_lt : frame.level < frame.dialect.depth := by
  have deep := starts.deep
  have bound := starts.shows.shallow index (Nat.le_refl index) starts.before starts.clear deep
  omega

end Starts

/-! ### Blocks one after the other -/

theorem lt_skipEmpty (before : index < frame.limit) (empty : (frame.row index).isEmpty = true) :
    index < frame.skipEmpty (frame.limit - index) index := by
  obtain ⟨more, left⟩ : ∃ more, frame.limit - index = more + 1 :=
    ⟨frame.limit - index - 1, by omega⟩
  rw [left, Frame.skipEmpty, decide_eq_true before, empty, Bool.true_and, if_pos rfl]
  exact (Frame.isWithin_skipEmpty (.refl frame (index + 1))).reaches

theorem skipEmpty_of_solid (solid : (frame.row index).isEmpty = false) :
    frame.skipEmpty fuel index = index := by
  cases fuel with
  | zero => rfl
  | succ fuel => rw [Frame.skipEmpty, solid, Bool.and_false, if_neg Bool.false_ne_true]

/-- An empty row behind a block is skipped. -/
theorem reads_gap (shows : frame.Shows lines first stop)
    (clear : openAt lines index = none ∨ frame.rows.size ≤ index) :
    Reads lines frame.rows.size index
      (if index < stop && (frame.row index).isEmpty then index + 1 else index) [] := by
  split
  · rename_i skips
    rw [Bool.and_eq_true, decide_eq_true_eq] at skips
    have inside := Nat.lt_of_lt_of_le skips.1 shows.stop_le
    have outside : openAt lines index = none := clear.resolve_right (by omega)
    have within : frame.IsWithin index (index + 1) :=
      (Frame.IsWithin.refl frame index).succ fun barrier => by simp [barrier.solid] at skips
    exact .skip within.reaches fun between from' before =>
      shows.openAt_eq_none outside within from' before
  · exact .refl clear

theorem blocksRead_succ (blocks : BlocksRead lines fuel) (block : BlockRead lines fuel) :
    BlocksRead lines (fuel + 1) := by
  intro frame index stop found shows clear enough
  rw [Frame.blocks]
  by_cases atEnd : stop ≤ index
  · rw [if_pos atEnd]
    exact ⟨.none (.refl clear), .inl atEnd, fun before => absurd before (by omega)⟩
  · rw [if_neg atEnd]
    have reach := shows.reach
    have outside : openAt lines index = none := clear.resolve_right (by omega)
    dsimp only
    have within := @Frame.isWithin_skipEmpty frame index index (frame.limit - index)
      (.refl frame index)
    have moved : (frame.row index).isEmpty = true →
        index < frame.skipEmpty (frame.limit - index) index := lt_skipEmpty (by omega)
    have stayed : (frame.row index).isEmpty = false →
        frame.skipEmpty (frame.limit - index) index = index := skipEmpty_of_solid
    generalize frame.skipEmpty (frame.limit - index) index = start at within moved stayed
    have skipped : Reads lines frame.rows.size index start [] :=
      .skip within.reaches fun between from' before =>
        shows.openAt_eq_none outside within from' before
    have reaches := within.reaches
    by_cases past : (stop ≤ start || frame.isOutside (frame.row start)) = true
    · rw [if_pos past]
      rw [Bool.or_eq_true, decide_eq_true_eq] at past
      refine ⟨.none skipped, past, fun _ moves => ?_⟩
      cases empty : (frame.row index).isEmpty with
      | true => exact moved empty
      | false =>
        obtain rfl := stayed empty
        exact absurd (past.resolve_left atEnd)
          (by simp [moves.resolve_left (by simp [empty])])
    · rw [if_neg past]
      simp only [Bool.or_eq_true, decide_eq_true_eq, not_or, Nat.not_le, Bool.not_eq_true] at past
      have starts : Starts lines frame start stop :=
        ⟨shows.later reaches, past.1,
          shows.openAt_eq_none outside within reaches (Nat.le_refl start), past.2⟩
      rw [if_neg (Nat.not_le.mpr starts.level_lt)]
      rw [need] at enough
      obtain ⟨added, moves⟩ := block frame start stop found starts (by rw [need]; omega)
      generalize Frame.block fuel frame start stop found = result at added moves
      obtain ⟨reached, found'⟩ := result
      dsimp only at moves ⊢
      have gap := reads_gap shows added.clear
      generalize (if reached < stop && (frame.row reached).isEmpty then reached + 1 else reached) =
        middle at gap
      have passed := gap.reaches
      obtain ⟨rest, ends, -⟩ := blocks frame middle stop found' (shows.later (by omega)) gap.clear
        (by rw [need]; omega)
      refine ⟨(Adds.none skipped).trans (added.trans ((Adds.none gap).trans rest)), ends, ?_⟩
      have furthest := rest.reaches
      omega

/-! ### Items of a list -/

/-- The search for the first item of a list: an empty one with nothing below it is passed, any other
one holds blocks. -/
def firstItem (fuel : Nat) (frame : Frame) (mark : Frame.ItemMark) (index stop : Nat)
    (found : Found) : Nat × Found :=
  if (frame.itemFrame mark index).2 && (frame.row (index + 1)).isEmpty then
    (min (index + 2) stop, found)
  else Frame.blocks fuel (frame.itemFrame mark index).1 index stop found

theorem adds_firstItem {mark : Frame.ItemMark} (blocks : BlocksRead lines fuel)
    (starts : Starts lines frame index stop) (free : IsFree lines index)
    (marked : Frame.itemMark? (frame.row index).content = some mark)
    (enough : need frame index ≤ fuel) :
    Adds lines frame.rows.size index found (firstItem fuel frame mark index stop found) ∧
      index < (firstItem fuel frame mark index stop found).1 := by
  have before := starts.before
  have shows := starts.shows
  rw [firstItem]
  split
  · rename_i empty
    rw [Bool.and_eq_true] at empty
    have within : frame.IsWithin (index + 1) (index + 1 + 1) :=
      (Frame.IsWithin.refl frame (index + 1)).succ fun barrier => by simp [barrier.solid] at empty
    refine ⟨.none (.skip (by omega) fun between from' earlier => ?_), by dsimp only; omega⟩
    rcases Nat.lt_or_eq_of_le from' with behind | rfl
    · exact shows.openAt_eq_none (openAt_succ_of_free free) within behind (by omega)
    · exact starts.clear
  · have item := Frame.isItem_itemFrame starts.inside marked
    have size : (frame.itemFrame mark index).1.rows.size = frame.rows.size :=
      Array.size_setIfInBounds
    have level : (frame.itemFrame mark index).1.level = frame.level + 2 := rfl
    have dialect : (frame.itemFrame mark index).1.dialect = frame.dialect := rfl
    have shallow := starts.level_lt
    rw [need] at enough
    obtain ⟨added, -, moves⟩ := blocks (frame.itemFrame mark index).1 index stop found
      (shows.item (Nat.le_refl index) before free starts.deep marked) (.inl starts.clear)
      (by rw [need, size, level, dialect]; omega)
    rw [size] at added
    refine ⟨added, moves before (item.column.imp id fun deep => ?_)⟩
    rw [Frame.isOutside, decide_eq_false_iff_not]
    omega

theorem itemsRead_succ (blocks : BlocksRead lines fuel) (items : ItemsRead lines fuel) :
    ItemsRead lines (fuel + 1) := by
  intro frame mark index stop found starts free marked enough
  obtain ⟨added, moves⟩ := @adds_firstItem lines frame stop index fuel found mark blocks starts free
    marked (by omega)
  rw [Frame.items]
  dsimp only
  rw [← firstItem]
  generalize firstItem fuel frame mark index stop found = result at added moves ⊢
  split
  · exact ⟨added, moves⟩
  · rename_i goesOn
    simp only [Bool.or_eq_true, decide_eq_true_eq, not_or, Nat.not_le, Bool.not_eq_true] at goesOn
    obtain ⟨⟨⟨before, within⟩, -⟩, noEnd⟩ := goesOn
    split
    · rename_i other marked'
      split
      · have size := starts.shows.stop_le
        have shows := starts.shows.later (Nat.le_of_lt moves)
        have clear : openAt lines result.1 = none := added.clear.resolve_right (by omega)
        have free' : IsFree lines result.1 := shows.isFree (by omega) clear fun barrier =>
          absurd (noEnd.symm.trans barrier.endsItem_eq) Bool.false_ne_true
        rw [need] at enough
        obtain ⟨rest, moves'⟩ := items frame other result.1 stop result.2
          ⟨shows, before, clear, within⟩ free' marked' (by rw [need]; omega)
        exact ⟨added.trans rest, Nat.lt_trans moves moves'⟩
      · exact ⟨added, moves⟩
    · exact ⟨added, moves⟩

/-! ### One block -/

/-- The block that starts with a fence, if no table starts there. -/
theorem block_of_fence {mark : Char} {size last : Nat} {info : Text} {isClosed : Bool}
    (spoken : frame.dialect.isPlain = false) (noTable : frame.tableHead? index stop = none)
    (fence : frame.fence? (frame.row index) = some (mark, size, info))
    (ends : frame.fenceEnd mark size stop (stop - index) (index + 1) = (last, isClosed)) :
    Frame.block (fuel + 1) frame index stop found =
      (if isClosed then last + 1 else last, found.add (.code (some info)
        (Row.joinClosed (frame.row index).column.toNat (frame.slice (index + 1) last)) index)) := by
  have noCode : frame.isCode (frame.row index) = false := by
    rw [Frame.fence?] at fence
    split at fence
    · cases fence
    · rename_i noCode
      exact eq_false_of_ne_true noCode
  rw [Frame.block]
  dsimp only
  rw [spoken, if_neg Bool.false_ne_true, noTable]
  dsimp only
  rw [noCode, if_neg Bool.false_ne_true, fence]
  dsimp only
  rw [ends]

/-- A fence at which a region begins is a block of code. -/
theorem adds_fence {opening : Fence} (starts : Starts lines frame index stop)
    (begins : Begins lines index opening) :
    Adds lines frame.rows.size index found (Frame.block (fuel + 1) frame index stop found) ∧
      index < (Frame.block (fuel + 1) frame index stop found).1 := by
  have shows := starts.shows
  have before := starts.before
  obtain ⟨line, isClosed, -, opened, well, row⟩ := shows.exists_row_of_begins begins
  obtain ⟨-, -, marked, several, language⟩ := parts_of_opens? opened
  obtain ⟨rfl, -⟩ := start_of_opens? opened
  have column : (frame.row opening.start).column = opening.indent :=
    row ▸ (row_of_opens? opened).2
  have deep := starts.deep
  rw [column, Int.ofNat_le] at deep
  obtain ⟨last, closes, ended, region, within, ends⟩ :=
    @Frame.Shows.exists_fenceEnd lines frame opening.start stop (opening.start + 1) opening shows
      (stop - opening.start) marked (by omega) deep (.single begins) before (by omega)
  have reaches := region.reaches
  rw [block_of_fence shows.spoken (tableHead?_of_opens? opened well row)
    (row ▸ fence?_of_opens? opened well) ended, column, Int.toNat_natCast]
  refine ⟨⟨[_], rfl, .region region (shows.count_joinClosed_le region within) ?_⟩, ?_⟩
  · cases closes with
    | false =>
      -- the region is open up to the last index, so that is behind the last row
      rw [if_neg Bool.false_ne_true] at ends
      have opened := region.opened last reaches (Nat.le_refl last)
      refine .inr ⟨rfl, ends ▸ shows.ends.resolve_left fun outside => ?_⟩
      rw [ends, outside] at opened
      cases opened
    | true =>
      rw [if_pos rfl] at ends
      have said := (Fence.spec_of_isWellOpened well).2.2
      have named := language_eq fun char member => ⟨(said char member).1, (said char member).2.2⟩
      refine .inl ⟨rfl, ends.2, ?_⟩
      rw [shows.joinClosed_of_closes region ends.1]
      simp only [Document.codeBlocks, List.filterMap_cons, List.filterMap_nil, Option.map_some,
        Option.getD_some]
      rw [named, ← language, Fence.block, Int.zero_add]
      rfl
  · show opening.start < if closes then last + 1 else last
    split <;> omega

/-- From a free line on no region is open up to a row that is not behind a fence. -/
theorem Starts.openAt_eq_none (starts : Starts lines frame index stop) (free : IsFree lines index)
    (within : frame.IsWithin (index + 1) next) :
    ∀ between, index ≤ between → between ≤ next → openAt lines between = none := by
  intro between from' before
  rcases Nat.lt_or_eq_of_le from' with behind | rfl
  · exact starts.shows.openAt_eq_none (openAt_succ_of_free free) within behind before
  · exact starts.clear

/-- Paragraphs, a heading, or nothing at all are added behind a free line. -/
theorem adds_quiet {found' : Found} (leaves : List Leaf) (starts : Starts lines frame index stop)
    (free : IsFree lines index) (within : frame.IsWithin (index + 1) next)
    (same : found'.leaves = leaves ++ found.leaves) (noCode : Document.codeBlocks leaves = [])
    (headings : ∀ heading ∈ Document.headings leaves, heading.last = next) :
    Adds lines frame.rows.size index found (next, found') ∧ index < next := by
  have reaches := within.reaches
  have away := starts.openAt_eq_none free within
  refine ⟨⟨leaves, same, .quiet (by omega) away noCode fun heading member => ?_⟩, reaches⟩
  rw [headings heading member]
  exact away next (by omega) (Nat.le_refl next)

/-- A quote adds what its blocks add. -/
theorem adds_quote (blocks : BlocksRead lines fuel) (starts : Starts lines frame index stop)
    (free : IsFree lines index) (quotes : frame.startsQuote (frame.row index) = true)
    (enough : need frame index ≤ fuel + 1) {rows : Array Row} {last : Nat} {isEnded : Bool}
    (read : frame.quoteRows stop (stop - index) (index + 1) (!(frame.row index).unquote.isEmpty)
      (frame.rows.setIfInBounds index (frame.row index).unquote) = (rows, last, isEnded)) :
    Adds lines frame.rows.size index found (Frame.blocks fuel { frame with
        rows := rows
        limit := if isEnded then last else frame.limit
        indent := 0
        level := frame.level + 1 } index last found) ∧
      index < (Frame.blocks fuel { frame with
        rows := rows
        limit := if isEnded then last else frame.limit
        indent := 0
        level := frame.level + 1 } index last found).1 := by
  have shows := starts.shows
  have inside := starts.inside
  have before := starts.before
  have size := shows.stop_le
  have reach := shows.reach
  have shallow := starts.level_lt
  have within := @Frame.isWithin_quoteRows frame (index + 1) (index + 1) stop (stop - index)
    (!(frame.row index).unquote.isEmpty)
    (frame.rows.setIfInBounds index (frame.row index).unquote) (.refl frame (index + 1))
  obtain ⟨quoted, ends⟩ := @Frame.areQuoted_quoteRows frame stop (index + 1) (stop - index)
    (!(frame.row index).unquote.isEmpty)
    (frame.rows.setIfInBounds index (frame.row index).unquote)
    (by rw [Array.size_setIfInBounds]; exact size) before
  rw [read] at within quoted ends
  dsimp only at within quoted ends
  rw [Frame.startsQuote, Bool.and_eq_true, decide_eq_true_eq] at quotes
  obtain ⟨behind, content⟩ := List.head?_eq_some_iff.mp quotes.2
  have all := quoted.cons inside (.inl ⟨⟨behind, content⟩, starts.within, rfl⟩)
  generalize inner' : ({ frame with
    rows := rows
    limit := if isEnded then last else frame.limit
    indent := 0
    level := frame.level + 1 } : Frame) = inner
  have rows' : inner.rows = rows := by rw [← inner']
  have limit : inner.limit = if isEnded then last else frame.limit := by rw [← inner']
  have indent : inner.indent = 0 := by rw [← inner']
  have level : inner.level = frame.level + 1 := by rw [← inner']
  have dialect : inner.dialect = frame.dialect := by rw [← inner']
  have row : inner.row index = (frame.row index).unquote := by
    rw [Frame.row, rows', quoted.kept index (.inl (Nat.lt_succ_self index)),
      Array.getElem?_setIfInBounds_self_of_lt inside, Option.getD_some]
  have outside : inner.isOutside (inner.row index) = false := by
    have deep := (Row.unquote_spec content).2.1
    rw [row, Frame.isOutside, indent, decide_eq_false_iff_not]
    omega
  have shows' : inner.Shows lines index last :=
    shows.quote (Nat.le_refl index) ends (starts.openAt_eq_none free within) (rows' ▸ all) dialect
      (by rw [limit]; split <;> omega) indent level
  rw [need] at enough
  obtain ⟨added, -, moves⟩ := blocks inner index last found shows' (.inl starts.clear)
    (by rw [need, rows', all.size, level, dialect]; omega)
  rw [rows', all.size] at added
  exact ⟨added, moves within.reaches (.inr outside)⟩

theorem itemMark?_of_item? {row : Row} {mark : Frame.ItemMark}
    (marked : frame.item? false row = some mark) : Frame.itemMark? row.content = some mark := by
  rw [Frame.item?] at marked
  split at marked
  · cases marked
  · exact (Option.filter_eq_some_iff.mp marked).1

theorem headings_map_prose (texts : List Text) :
    Document.headings (texts.map Leaf.prose) = [] ∧
      Document.codeBlocks (texts.map Leaf.prose) = [] := by
  simp [Document.headings, Document.codeBlocks]

theorem blockRead_succ (blocks : BlocksRead lines fuel) (items : ItemsRead lines fuel) :
    BlockRead lines (fuel + 1) := by
  intro frame index stop found starts enough
  have shows := starts.shows
  have inside := starts.inside
  rcases free_or_begins starts.clear (Nat.lt_of_lt_of_le inside shows.reach.2.2) with
    free | ⟨opening, begins⟩
  · have next := Frame.IsWithin.refl frame (index + 1)
    rw [Frame.block]
    dsimp only
    rw [shows.spoken, if_neg Bool.false_ne_true]
    split
    · rename_i head table
      obtain ⟨noHeading, noCode⟩ := headings_map_prose
        ((frame.tableBody head.length stop (stop - index) 0 (index + 2) []).2 ++
          (head.map trim).reverse)
      exact adds_quiet (List.map Leaf.prose _) starts free
        (Frame.isWithin_tableBody (Frame.isWithin_of_tableHead? next table)) rfl noCode
        (by rw [noHeading]; exact fun _ none' => by cases none')
    rw [shows.fence?_eq_none free inside, shows.html?_eq_none free inside]
    dsimp only
    split
    · have within := @Frame.isWithin_codeEnd frame (index + 1) (index + 1) stop (index + 1)
        (stop - index) next next
      exact ⟨⟨[_], rfl, .indented within.reaches (starts.openAt_eq_none free within)⟩,
        within.reaches⟩
    split
    · rename_i quotes
      exact adds_quote blocks starts free quotes (by omega) rfl
    split
    · exact adds_quiet [] starts free next rfl rfl (by simp [Document.headings])
    split
    · rename_i mark marked
      exact items frame mark index stop found starts free (itemMark?_of_item? marked) (by omega)
    split
    · rename_i label target last defines
      exact adds_quiet [] starts free (Frame.isWithin_of_definition? next defines) rfl rfl
        (by simp [Document.headings])
    split
    · exact adds_quiet [.heading _ _ _ _] starts free next rfl rfl (by simp [Document.headings])
    split
    · rename_i level last underlined
      exact adds_quiet [.heading _ _ _ _] starts free
        (Frame.isWithin_of_underlined? next underlined).1 rfl rfl (by simp [Document.headings])
    · exact adds_quiet [.prose _] starts free (Frame.isWithin_paragraphEnd next) rfl rfl
        (by simp [Document.headings])
  · exact adds_fence starts begins

/-- With enough fuel the whole search reads lines. -/
theorem reads_all (lines : List Text) (fuel : Nat) :
    BlocksRead lines fuel ∧ BlockRead lines fuel ∧ ItemsRead lines fuel := by
  induction fuel with
  | zero =>
    refine ⟨?_, ?_, ?_⟩
    · intro frame index stop found _ _ enough
      omega
    · intro frame index stop found _ enough
      omega
    · intro frame mark index stop found _ _ _ enough
      omega
  | succ fuel inductionHypothesis =>
    obtain ⟨blocks, block, items⟩ := inductionHypothesis
    exact ⟨blocksRead_succ blocks block, blockRead_succ blocks items, itemsRead_succ blocks items⟩

end GuidedMigration.Guide
