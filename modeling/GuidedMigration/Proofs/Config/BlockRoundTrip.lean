/-
This file reads basic documents back as configuration blocks. The reader follows the rows of the
writer: below the row of a key it opens the collection that the rows hold, a dash opens a mapping
two columns further in, and what is left open is closed before the next row that is not part of it.
So the mapping comes back with its keys in order, and every value in it is the one that was written
or a truth value or the empty value in place of a word.
-/
import GuidedMigration.Proofs.Config.BlockLeaf
import GuidedMigration.Proofs.Value.Replay
import GuidedMigration.Value.Placeholder

namespace GuidedMigration.Config.Block

open Text
open Yaml (Row isBasic isBasicList isBasicList_cons isBasicMap isBasicMap_cons belowRows itemRows
  entryRows inlineText behindColon leafText)

/-! ### What a document becomes -/

mutual

/-- The value that a written value is read as. -/
def reread : Value → Value
  | .scalar leaf => .scalar (rereadLeaf leaf)
  | .list items => .list (rereadList items)
  | .set members => .set members
  | .map entries => .map (rereadMap entries)

/-- The items that written items are read as. -/
def rereadList : List Value → List Value
  | [] => []
  | item :: rest => reread item :: rereadList rest

/-- The entries that written entries are read as. -/
def rereadMap : List (Scalar × Value) → List (Scalar × Value)
  | [] => []
  | (key, value) :: rest => (key, reread value) :: rereadMap rest

end

mutual

theorem reread_eq_iff {value : Value} (basic : isBasic value = true) :
    reread value = value ↔ ∀ word ∈ value.texts, isMiscased word = false := by
  match value with
  | .scalar leaf =>
    rw [isBasic] at basic
    cases leaf with
    | text word =>
      rw [reread, Value.scalar.injEq, rereadLeaf_eq_iff basic]
      simp [Value.texts]
    | _ => simp [reread, rereadLeaf, Value.texts]
  | .list items =>
    rw [isBasic] at basic
    rw [reread, Value.list.injEq, rereadList_eq_iff basic, Value.texts]
  | .set _ => cases basic
  | .map entries =>
    rw [isBasic] at basic
    rw [reread, Value.map.injEq, rereadMap_eq_iff basic, Value.texts]

theorem rereadList_eq_iff {items : List Value} (basic : isBasicList items = true) :
    rereadList items = items ↔ ∀ word ∈ Value.textsList items, isMiscased word = false := by
  match items with
  | [] => simp [rereadList, Value.textsList]
  | item :: rest =>
    obtain ⟨-, itemBasic, restBasic⟩ := isBasicList_cons.mp basic
    rw [rereadList, List.cons.injEq, reread_eq_iff itemBasic, rereadList_eq_iff restBasic,
      Value.textsList, List.forall_mem_append]

/-- A document is read as itself if no word in it is taken for something else. -/
theorem rereadMap_eq_iff {entries : List (Scalar × Value)} (basic : isBasicMap entries = true) :
    rereadMap entries = entries ↔
      ∀ word ∈ Value.textsEntries entries, isMiscased word = false := by
  match entries with
  | [] => simp [rereadMap, Value.textsEntries]
  | (key, value) :: rest =>
    obtain ⟨-, -, valueBasic, restBasic⟩ := isBasicMap_cons.mp basic
    rw [rereadMap, List.cons.injEq, Prod.mk.injEq, reread_eq_iff valueBasic,
      rereadMap_eq_iff restBasic, Value.textsEntries, List.forall_mem_append]
    simp

end

/-- A mapping with entries written to it one after the other. -/
def putAll (entries : List (Scalar × Value)) (mapping : Mapping) : Mapping :=
  entries.foldl (fun mapping entry => Mapping.put entry.1 entry.2 mapping) mapping

/-- Entries with keys of their own stand in a mapping as they are written to it. -/
theorem putAll_rereadMap {entries : List (Scalar × Value)} (basic : isBasicMap entries = true)
    {mapping : Mapping} (fresh : ∀ key ∈ Mapping.keys entries, Mapping.get? key mapping = none) :
    putAll (rereadMap entries) mapping = mapping ++ rereadMap entries := by
  induction entries generalizing mapping with
  | nil => exact (List.append_nil mapping).symm
  | cons entry rest inductionHypothesis =>
    obtain ⟨key, value⟩ := entry
    obtain ⟨-, own, -, restBasic⟩ := isBasicMap_cons.mp basic
    have free := Mapping.put_of_get?_eq_none (fresh key List.mem_cons_self) (reread value)
    rw [rereadMap, putAll, List.foldl_cons, free, ← putAll, inductionHypothesis restBasic]
    · rw [List.append_assoc]
      rfl
    · intro other member
      have different : key.same other = false := by
        refine Bool.eq_false_iff.mpr fun same => ?_
        have held := Mapping.has_of_mem_keys member
        rw [Mapping.has, ← Mapping.get?_of_same same, ← Mapping.has, own] at held
        cases held
      rw [← free, Mapping.get?_put_of_not_same _ _ different]
      exact fresh other (List.mem_cons_of_mem _ member)

/-! ### The rows of a document as lines -/

/-- The line that a row is. -/
def asLine (row : Row) : Line := ⟨row.1, row.2, 0⟩

variable {value : Value} {written : Text} {inline : Option Text} {word : Text}

/-- A value on the row of its key or its dash is a piece of the row, and read as itself. -/
theorem of_inlineText_eq_some (basic : isBasic value = true)
    (found : inlineText value = some written) :
    IsPiece written ∧ scalar written = .ok (reread value) ∧
      ∀ level, belowRows level value = [] := by
  match value with
  | .scalar leaf =>
    rw [isBasic] at basic
    obtain rfl := Option.some.inj found
    exact ⟨isPiece_leafText basic, scalar_leafText basic, fun _ => rfl⟩
  | .list [] =>
    obtain rfl := Option.some.inj found
    exact ⟨.plain (by decide) (by decide), rfl, fun _ => rfl⟩
  | .map [] =>
    obtain rfl := Option.some.inj found
    exact ⟨.plain (by decide) (by decide), rfl, fun _ => rfl⟩
  | .list (_ :: _) => cases found
  | .map (_ :: _) => cases found
  | .set _ => cases found

/-- The row of a key is an entry, with what stands behind the colon for a value. -/
theorem entry?_row (basic : Yaml.isBasicWord word = true)
    (pieces : ∀ written, inline = some written → IsPiece written) :
    entry? (leafText (.text word) ++ ':' :: behindColon inline) = some (word, inline) := by
  rw [entry?_leafText basic]
  cases inline with
  | none => rfl
  | some written =>
    have begins := (pieces written rfl).isTrimmed.begins
    have behind : trimLeft (' ' :: written) = written :=
      (trimLeft_append_blank (by decide : isBlankText [' '] = true) written).trans
        (trimLeft_of_begins begins)
    rw [behindColon, afterColon?, List.isEmpty_cons, behind]
    rfl

theorem isItem_row (basic : Yaml.isBasicWord word = true) (behind : Text) :
    isItem (leafText (.text word) ++ behind) = false := by
  obtain ⟨first, rest, rfl, starts, -⟩ := Yaml.exists_of_isBasicWord basic
  have noDash : '-' ≠ first := Ne.symm (Yaml.ne_of_isWordStart starts (by decide))
  rw [leafText]
  split
  · simp [isItem, startsWith, dropPrefix?, noDash, Ne.symm noDash]
  · simp [isItem, startsWith, dropPrefix?]

theorem isItem_dash (text : Text) : isItem ('-' :: ' ' :: text) = true := by
  simp [isItem, startsWith, dropPrefix?]

/-- Whether a text stands on a row of its own as it is: it has no blanks at its edges, no line break
in it, and is no comment. -/
structure IsRow (text : Text) : Prop where
  trimmed : IsTrimmed text
  unbroken : isUnbroken text = true
  counts : text.head? ≠ some '#'

theorem IsPiece.isUnbroken (piece : IsPiece written) : isUnbroken written = true :=
  List.all_eq_true.mpr fun char member => by
    cases breaks : isLineBreak char with
    | false => rfl
    | true =>
      exact absurd ((piece.isBlank_of_mem member).symm.trans (isBlank_of_isLineBreak breaks))
        Bool.false_ne_true

theorem isRow_entry (basic : Yaml.isBasicWord word = true)
    (pieces : ∀ written, inline = some written → IsPiece written) :
    IsRow (leafText (.text word) ++ ':' :: behindColon inline) := by
  have key : IsPiece (leafText (.text word)) := isPiece_leafText basic
  have noHash : (leafText (.text word)).head? ≠ some '#' := by
    obtain ⟨first, rest, rfl, starts, -⟩ := Yaml.exists_of_isBasicWord basic
    rw [leafText]
    split
    · exact fun same => Yaml.ne_of_isWordStart starts (by decide) (Option.some.inj same)
    · intro same
      cases same
  have begins := key.isTrimmed.begins
  obtain ⟨first, rest, cut⟩ := List.exists_cons_of_ne_nil
    (show leafText (.text word) ≠ [] by intro none'; rw [none'] at begins; cases begins)
  rw [cut] at begins noHash
  refine ⟨⟨by rw [cut]; exact begins, ?_⟩, ?_, by rw [cut]; exact noHash⟩
  · rw [getLast?_append_of_ne_nil (List.cons_ne_nil _ _)]
    cases inline with
    | none => rfl
    | some written =>
      have ends := (pieces written rfl).isTrimmed.ends
      have some' : written ≠ [] := by
        rintro rfl
        cases ends
      have behind : ':' :: behindColon (some written) = [':', ' '] ++ written := rfl
      rw [behind, getLast?_append_of_ne_nil some']
      exact ends
  · rw [isUnbroken_append, key.isUnbroken]
    cases inline with
    | none => rfl
    | some written => exact (pieces written rfl).isUnbroken

theorem isRow_dash {text : Text} (trimmed : IsTrimmed text) (unbroken : isUnbroken text = true) :
    IsRow ('-' :: ' ' :: text) := by
  refine ⟨⟨rfl, ?_⟩, unbroken, nofun⟩
  have some' : text ≠ [] := by
    rintro rfl
    cases trimmed.ends
  rw [show '-' :: ' ' :: text = ['-', ' '] ++ text from rfl, getLast?_append_of_ne_nil some']
  exact trimmed.ends

/-- The rows of a mapping begin with an entry at its level. -/
theorem exists_entryRows {entry : Scalar × Value} {entries : List (Scalar × Value)}
    (basic : isBasicMap (entry :: entries) = true) (level : Nat) :
    ∃ text, IsTrimmed text ∧ isItem text = false ∧
      (∃ key inline, entry? text = some (key, inline)) ∧
      ∃ rows, entryRows level (entry :: entries) = (level, text) :: rows := by
  obtain ⟨key, value⟩ := entry
  obtain ⟨keyBasic, -, valueBasic, -⟩ := isBasicMap_cons.mp basic
  obtain ⟨word, rfl, wordBasic, -⟩ := Yaml.exists_of_isBasicKey keyBasic
  have pieces (written : Text) (found : inlineText value = some written) : IsPiece written :=
    (of_inlineText_eq_some valueBasic found).1
  exact ⟨_, (isRow_entry wordBasic pieces).trimmed, isItem_row wordBasic _,
    ⟨word, _, entry?_row wordBasic pieces⟩, _, rfl⟩

/-- The rows of a list begin with a dash at its level. -/
theorem exists_itemRows {item : Value} {items : List Value}
    (basic : isBasicList (item :: items) = true) (level : Nat) :
    ∃ text rows, itemRows level (item :: items) = (level, '-' :: ' ' :: text) :: rows := by
  obtain ⟨notFilled, itemBasic, -⟩ := isBasicList_cons.mp basic
  match item with
  | .scalar _ => exact ⟨_, _, rfl⟩
  | .list [] => exact ⟨_, _, rfl⟩
  | .list (_ :: _) => cases notFilled
  | .set _ => cases itemBasic
  | .map [] => exact ⟨_, _, rfl⟩
  | .map (_ :: _) => exact ⟨_, _, rfl⟩

mutual

theorem isRow_belowRows {value : Value} (basic : isBasic value = true) (level : Nat) :
    ∀ row ∈ belowRows level value, IsRow row.2 := by
  match value with
  | .scalar _ => exact nofun
  | .set _ => exact nofun
  | .list items =>
    rw [isBasic] at basic
    exact isRow_itemRows basic level
  | .map entries =>
    rw [isBasic] at basic
    exact isRow_entryRows basic (level + 2)

theorem isRow_itemRows {items : List Value} (basic : isBasicList items = true) (level : Nat) :
    ∀ row ∈ itemRows level items, IsRow row.2 := by
  match items with
  | [] => exact nofun
  | item :: rest =>
    obtain ⟨-, itemBasic, restBasic⟩ := isBasicList_cons.mp basic
    have below := isRow_belowRows itemBasic level
    rw [itemRows, List.forall_mem_append]
    refine ⟨?_, isRow_itemRows restBasic level⟩
    cases found : inlineText item with
    | some written =>
      have piece := (of_inlineText_eq_some itemBasic found).1
      rintro row member
      rw [List.mem_singleton.mp member]
      exact isRow_dash piece.isTrimmed piece.isUnbroken
    | none =>
      cases rows : belowRows level item with
      | nil => exact nofun
      | cons row rows' =>
        obtain ⟨first, others⟩ := List.forall_mem_cons.mp (rows ▸ below)
        exact List.forall_mem_cons.mpr ⟨isRow_dash first.trimmed first.unbroken, others⟩

/-- Every row of a basic document stands for itself. -/
theorem isRow_entryRows {entries : List (Scalar × Value)} (basic : isBasicMap entries = true)
    (level : Nat) : ∀ row ∈ entryRows level entries, IsRow row.2 := by
  match entries with
  | [] => exact nofun
  | (key, value) :: rest =>
    obtain ⟨keyBasic, -, valueBasic, restBasic⟩ := isBasicMap_cons.mp basic
    obtain ⟨word, rfl, wordBasic, -⟩ := Yaml.exists_of_isBasicKey keyBasic
    rw [entryRows, List.forall_mem_cons, List.forall_mem_append]
    exact ⟨isRow_entry wordBasic fun written found => (of_inlineText_eq_some valueBasic found).1,
      isRow_belowRows valueBasic level, isRow_entryRows restBasic level⟩

end

/-! ### From the document to its rows -/

theorem takeWhile_shown {row : Row} (isRow : IsRow row.2) {kind : Char → Bool}
    (space : kind ' ' = true) (blank : ∀ char, kind char = true → isBlank char = true) :
    (Row.shown row).takeWhile kind = List.replicate row.1 ' ' := by
  refine takeWhile_append_of_head (List.all_eq_true.mpr fun char member => ?_) ?_
  · rw [List.eq_of_mem_replicate member]
    exact space
  · have begins := isRow.trimmed.begins
    cases first : row.2.head? with
    | none => rfl
    | some char =>
      rw [first, Option.any_some, Bool.not_eq_true'] at begins
      exact Bool.eq_false_iff.mpr fun fits =>
        Bool.false_ne_true (begins.symm.trans (blank char fits))

theorem isBlankText_replicate (size : Nat) : isBlankText (List.replicate size ' ') = true :=
  List.all_eq_true.mpr fun char member => by
    rw [List.eq_of_mem_replicate member]
    decide

theorem lineOf?_shown {row : Row} (isRow : IsRow row.2) (number : Nat) :
    lineOf? (Row.shown row) number = .ok (some ⟨row.1, row.2, number⟩) := by
  have blank := isBlankText_replicate row.1
  have left : trimLeft (Row.shown row) = row.2 :=
    (trimLeft_append_blank blank row.2).trans (trimLeft_of_begins isRow.trimmed.begins)
  have whole : trim (Row.shown row) = row.2 :=
    (trim_append_left blank row.2).trans isRow.trimmed.trim_eq
  have indent : indentOf (Row.shown row) = List.replicate row.1 ' ' :=
    takeWhile_shown isRow (by decide) fun _ blank => blank
  have spaces : (Row.shown row).takeWhile (· = ' ') = List.replicate row.1 ' ' :=
    takeWhile_shown isRow (by decide) fun char space => by rw [of_decide_eq_true space]; decide
  have noTab : (List.replicate row.1 ' ').contains '\t' = false := by
    refine Bool.eq_false_iff.mpr fun member => ?_
    exact absurd (List.eq_of_mem_replicate (List.contains_iff_mem.mp member)) (by decide)
  have some' : row.2.isEmpty = false := by
    cases written : row.2 with
    | nil =>
      have begins := isRow.trimmed.begins
      rw [written] at begins
      cases begins
    | cons first rest => rfl
  simp only [lineOf?, left, whole, indent, spaces, noTab, some', isRow.counts, decide_false,
    Bool.or_false, Bool.false_eq_true, if_false, List.length_replicate]

/-- The lines of a document are its rows. -/
theorem exists_linesFrom_shown {rows : List Row} (isRow : ∀ row ∈ rows, IsRow row.2)
    (number : Nat) :
    ∃ lines, linesFrom number (rows.map Row.shown) = .ok lines ∧
      lines.map Line.content = (rows.map asLine).map Line.content := by
  induction rows generalizing number with
  | nil => exact ⟨[], rfl, rfl⟩
  | cons row rows inductionHypothesis =>
    obtain ⟨first, others⟩ := List.forall_mem_cons.mp isRow
    obtain ⟨lines, found, contents⟩ := inductionHypothesis others (number + 1)
    refine ⟨⟨row.1, row.2, number⟩ :: lines, ?_, congrArg (row :: ·) contents⟩
    rw [List.map_cons, linesFrom, lineOf?_shown first, found]
    rfl

/-- A document whose first row is not indented is cut into its rows. -/
theorem lines_dedent_shown {row : Row} {rows : List Row} (flush : row.1 = 0)
    (isRow : ∀ row' ∈ row :: rows, IsRow row'.2) :
    lines (dedent (closed ((row :: rows).map Row.shown))) = (row :: rows).map Row.shown := by
  have solid' : ∀ shown ∈ (row :: rows).map Row.shown,
      isUnbroken shown = true ∧ isInked shown = true := by
    intro shown member
    obtain ⟨row', among, rfl⟩ := List.mem_map.mp member
    have unbroken : isUnbroken (List.replicate row'.1 ' ') = true :=
      List.all_eq_true.mpr fun char member => by
        rw [List.eq_of_mem_replicate member]
        decide
    rw [Row.shown, isUnbroken_append, unbroken, (isRow row' among).unbroken, isInked_append,
      isInked_of_begins (isRow row' among).trimmed.begins, Bool.or_true]
    exact ⟨rfl, rfl⟩
  have clean : ∀ shown ∈ (row :: rows).map Row.shown, '\n' ∉ shown ∧ isInked shown = true :=
    fun shown member => ⟨not_mem_of_isUnbroken (solid' shown member).1 isLineBreak_newline,
      (solid' shown member).2⟩
  have margin : tabbing (Row.shown row) = [] := by
    rw [tabbing, takeWhile_shown (isRow row List.mem_cons_self) (by decide)
      fun _ space => isBlank_of_isSpaceOrTab space, flush]
    rfl
  rw [dedent_closed clean (List.isEmpty_iff.mpr margin), lines_closed solid']

/-! ### Reading the rows -/

variable {base stack : Stack} {mapping : Mapping} {done : List Value}

theorem run_cons (line : Line) (rest : List Line) (stack : Stack) :
    stack.run (line :: rest) = stack.step line rest.head? >>= fun stack => stack.run rest := rfl

/-- A value on the row of its key is written to the key. -/
theorem assign_piece (piece : IsPiece written) {value : Value} (read : scalar written = .ok value)
    (top : stack.top = .mapping mapping) (key : Text) (next : Option Line) (indent : Nat) :
    stack.assign key (some written) next indent =
      .ok ⟨stack.level, .mapping (Mapping.put (.text key) value mapping), stack.frames⟩ := by
  rw [assign_value piece.stripComment_ne_nil, read, top]
  rfl

/-- What stands behind a dash is an entry of a new mapping two columns further in, or an item. -/
theorem step_dash {text : Text} (trimmed : IsTrimmed text) (top : stack.top = .list done)
    (next : Option Line) :
    stack.step (asLine (stack.level, '-' :: ' ' :: text)) next =
      match entry? text with
      | some (key, value) =>
        (stack.push .item (stack.level + 2) (.mapping [])).assign key value next (stack.level + 2)
      | none => scalar text >>= fun value =>
        .ok ⟨stack.level, .list (value :: done), stack.frames⟩ := by
  have isList : stack.top.isList = true := by rw [top]; rfl
  have body : trim (' ' :: text) = text :=
    (trim_append_left (by decide : isBlankText [' '] = true) text).trans trimmed.trim_eq
  have some' : text.isEmpty = false := by
    cases text with
    | nil => cases trimmed.begins
    | cons first rest => rfl
  rw [step_item rfl isList (isItem_dash text), Stack.readItem, top]
  simp only [asLine, List.drop_succ_cons, List.drop_zero, body, some']
  rfl

/-- A row behind a dash is read as on a row of its own in the mapping that the dash opens. -/
theorem step_dash_entry {text key : Text} (trimmed : IsTrimmed text) (noItem : isItem text = false)
    (found : entry? text = some (key, inline)) (top : stack.top = .list done)
    (next : Option Line) :
    stack.step (asLine (stack.level, '-' :: ' ' :: text)) next =
      (stack.push .item (stack.level + 2) (.mapping [])).step (asLine (stack.level + 2, text))
        next := by
  rw [step_dash trimmed top, found, step_entry rfl rfl noItem found]
  rfl

/-- The rows of a mapping in a list are read as those of the mapping that its dash opens. -/
theorem run_dashed {entry : Scalar × Value} {entries : List (Scalar × Value)}
    (basic : isBasicMap (entry :: entries) = true) (top : base.top = .list done)
    (inside : base.Inside stack) (items : List Value) (rest : List Line) :
    stack.run ((itemRows base.level (.map (entry :: entries) :: items)).map asLine ++ rest) =
      (base.push .item (base.level + 2) (.mapping [])).run
        ((entryRows (base.level + 2) (entry :: entries)).map asLine ++
          ((itemRows base.level items).map asLine ++ rest)) := by
  obtain ⟨text, trimmed, noItem, ⟨key, inline, found⟩, rows, begins⟩ :=
    exists_entryRows basic (base.level + 2)
  have isList : base.top.isList = true := by rw [top]; rfl
  have dash : itemRows base.level (.map (entry :: entries) :: items) =
      (base.level, '-' :: ' ' :: text) :: (rows ++ itemRows base.level items) := by
    have below : belowRows base.level (.map (entry :: entries)) = (base.level + 2, text) :: rows :=
      begins
    rw [itemRows, below]
    rfl
  rw [dash, begins, List.map_cons, List.map_cons, List.cons_append, List.cons_append, run_cons,
    run_cons, inside.step rfl ((isItem_dash text).trans isList.symm),
    step_dash_entry trimmed noItem found top, List.map_append, List.append_assoc]

/-- Whether an outcome is what a stack that stands for `base` makes of the lines that are left. -/
def Arrives (base : Stack) (rest : List Line) (outcome : Except BlockError Stack) : Prop :=
  ∃ stack, base.Inside stack ∧ outcome = stack.run rest

theorem Arrives.of_pop? {outer : Stack} {rest : List Line} {outcome : Except BlockError Stack}
    (arrives : Arrives base rest outcome) (popped : base.pop? = some outer)
    (deeper : outer.level < base.level ∨
      outer.level = base.level ∧ base.top.isList = true ∧ outer.top.isList = false) :
    Arrives outer rest outcome := by
  obtain ⟨stack, inside, same⟩ := arrives
  exact ⟨stack, (Stack.Inside.of_pop? popped deeper).trans inside, same⟩

/-- A key without a value opens the collection whose rows stand below it. -/
theorem run_below {below rows : List Row} {level : Nat} {text : Text}
    (begins : below = (level, text) :: rows)
    (deeper : base.level < level ∨ base.level = level ∧ isItem text = true) (key : Text)
    (rest : List Line) :
    (base.assign key none (below.map asLine ++ rest).head? base.level >>=
        fun stack => stack.run (below.map asLine ++ rest)) =
      (base.push (.key key) level (if isItem text then .list [] else .mapping [])).run
        (below.map asLine ++ rest) := by
  have opened := @assign_opens base.level (asLine (level, text)) deeper base key
  rw [begins, List.map_cons, List.cons_append, List.head?_cons, opened]
  rfl

/-- A leaf or an empty collection is written to its key. -/
theorem arrives_inline {value : Value} (basic : isBasic value = true)
    (found : inlineText value = some written) (top : base.top = .mapping mapping) (key : Text)
    (rest : List Line) :
    Arrives ⟨base.level, .mapping (Mapping.put (.text key) (reread value) mapping), base.frames⟩
      rest (base.assign key (inlineText value)
          ((belowRows base.level value).map asLine ++ rest).head? base.level >>=
        fun stack => stack.run ((belowRows base.level value).map asLine ++ rest)) := by
  obtain ⟨piece, read, none'⟩ := of_inlineText_eq_some basic found
  refine ⟨_, .refl _, ?_⟩
  rw [found, none', assign_piece piece read top]
  rfl

mutual

/-- A key with a value, and the rows below it, write the value to the key. -/
theorem arrives_value {value : Value} (basic : isBasic value = true) {base : Stack}
    {mapping : Mapping} (top : base.top = .mapping mapping) (key : Text) (rest : List Line) :
    Arrives ⟨base.level, .mapping (Mapping.put (.text key) (reread value) mapping), base.frames⟩
      rest (base.assign key (inlineText value)
          ((belowRows base.level value).map asLine ++ rest).head? base.level >>=
        fun stack => stack.run ((belowRows base.level value).map asLine ++ rest)) := by
  match value with
  | .scalar leaf => exact arrives_inline basic rfl top key rest
  | .list [] => exact arrives_inline basic rfl top key rest
  | .map [] => exact arrives_inline basic rfl top key rest
  | .set _ => cases basic
  | .list (item :: items) =>
    rw [isBasic] at basic
    obtain ⟨text, rows, begins⟩ := exists_itemRows basic base.level
    have opened := run_below begins (Or.inr ⟨rfl, isItem_dash text⟩) key rest
    rw [isItem_dash, if_pos rfl] at opened
    have arrives := arrives_items basic
      (rfl : (base.push (.key key) base.level (.list [])).top = .list []) (.refl _) rest
    have popped := pop?_push_key top key base.level (.list [])
      (.list ((rereadList (item :: items)).reverse ++ []))
    rw [Open.close, List.append_nil, List.reverse_reverse, ← reread] at popped
    rw [List.append_nil, level_push, ← opened] at arrives
    exact arrives.of_pop? popped (Or.inr ⟨rfl, rfl, rfl⟩)
  | .map (entry :: entries) =>
    rw [isBasic] at basic
    have deeper : base.level < base.level + 2 := Nat.lt_add_of_pos_right (by decide)
    obtain ⟨text, -, noItem, -, rows, begins⟩ := exists_entryRows basic (base.level + 2)
    have opened := run_below begins (Or.inl deeper) key rest
    rw [noItem, if_neg Bool.false_ne_true] at opened
    have arrives := arrives_entries basic
      (rfl : (base.push (.key key) (base.level + 2) (.mapping [])).top = .mapping []) (.refl _) rest
    have popped := pop?_push_key top key (base.level + 2) (.mapping [])
      (.mapping (rereadMap (entry :: entries)))
    rw [Open.close, ← reread] at popped
    rw [putAll_rereadMap basic fun _ _ => rfl, level_push, ← opened] at arrives
    exact arrives.of_pop? popped (Or.inl deeper)

/-- The rows of a list write its items behind those that are there. -/
theorem arrives_items {items : List Value} (basic : isBasicList items = true) {base stack : Stack}
    {done : List Value} (top : base.top = .list done) (inside : base.Inside stack)
    (rest : List Line) :
    Arrives ⟨base.level, .list ((rereadList items).reverse ++ done), base.frames⟩ rest
      (stack.run ((itemRows base.level items).map asLine ++ rest)) := by
  match items with
  | [] =>
    obtain ⟨level, _, frames⟩ := base
    obtain rfl : _ = Open.list done := top
    exact ⟨stack, inside, rfl⟩
  | item :: items =>
    obtain ⟨notFilled, itemBasic, restBasic⟩ := isBasicList_cons.mp basic
    have isList : base.top.isList = true := by rw [top]; rfl
    -- Either way the item is in the list before the rows of the others are read.
    have first : Arrives ⟨base.level, .list (reread item :: done), base.frames⟩
        ((itemRows base.level items).map asLine ++ rest)
        (stack.run ((itemRows base.level (item :: items)).map asLine ++ rest)) := by
      cases found : inlineText item with
      | some written =>
        obtain ⟨piece, read, -⟩ := of_inlineText_eq_some itemBasic found
        refine ⟨_, .refl _, ?_⟩
        rw [itemRows, found, List.singleton_append, List.map_cons, List.cons_append, run_cons,
          inside.step rfl ((isItem_dash written).trans isList.symm), step_dash piece.isTrimmed top,
          piece.entry?_eq_none, read]
        rfl
      | none =>
        match item with
        | .scalar _ => cases found
        | .list [] => cases found
        | .list (_ :: _) => cases notFilled
        | .set _ => cases itemBasic
        | .map [] => cases found
        | .map (entry :: entries) =>
          rw [isBasic] at itemBasic
          have arrives := arrives_entries itemBasic
            (rfl : (base.push .item (base.level + 2) (.mapping [])).top = .mapping []) (.refl _)
            ((itemRows base.level items).map asLine ++ rest)
          have popped := pop?_push_item top (base.level + 2) (.mapping [])
            (.mapping (rereadMap (entry :: entries)))
          rw [putAll_rereadMap itemBasic fun _ _ => rfl, level_push,
            ← run_dashed itemBasic top inside] at arrives
          exact arrives.of_pop? popped (Or.inl (Nat.lt_add_of_pos_right (by decide)))
    obtain ⟨middle, insideMiddle, same⟩ := first
    have arrives := arrives_items restBasic rfl insideMiddle rest
    rw [same, rereadList, List.reverse_cons, List.append_assoc]
    exact arrives

/-- The rows of a mapping write its entries. -/
theorem arrives_entries {entries : List (Scalar × Value)} (basic : isBasicMap entries = true)
    {base stack : Stack} {mapping : Mapping} (top : base.top = .mapping mapping)
    (inside : base.Inside stack) (rest : List Line) :
    Arrives ⟨base.level, .mapping (putAll (rereadMap entries) mapping), base.frames⟩ rest
      (stack.run ((entryRows base.level entries).map asLine ++ rest)) := by
  match entries with
  | [] =>
    obtain ⟨level, _, frames⟩ := base
    obtain rfl : _ = Open.mapping mapping := top
    exact ⟨stack, inside, rfl⟩
  | (key, value) :: entries =>
    obtain ⟨keyBasic, -, valueBasic, restBasic⟩ := isBasicMap_cons.mp basic
    obtain ⟨word, rfl, wordBasic, -⟩ := Yaml.exists_of_isBasicKey keyBasic
    have found := @entry?_row (inlineText value) word wordBasic fun written found =>
      (of_inlineText_eq_some valueBasic found).1
    have noItem := isItem_row wordBasic (':' :: behindColon (inlineText value))
    obtain ⟨middle, insideMiddle, same⟩ := arrives_value valueBasic top word
      ((entryRows base.level entries).map asLine ++ rest)
    have arrives := arrives_entries restBasic rfl insideMiddle rest
    rw [entryRows, List.map_cons, List.map_append, List.cons_append, List.append_assoc, run_cons,
      inside.step rfl (by rw [top]; exact noItem), step_entry rfl top noItem found]
    rwa [← same] at arrives

end

/-! ### Documents -/

/-- A basic document is read back from what the writer makes of it: no row of it is a fault, and
what is read has the same keys in the same order with the same values, up to words that the writer
leaves without quotes and the reader takes for a truth value or the empty value. So the document
itself is read exactly if no word in it is of that kind. -/
theorem readBlock_documentText {entries : Mapping} (basic : isBasicMap entries = true)
    (some' : entries ≠ []) :
    readBlock (documentText entries) = .ok (rereadMap entries) ∧
      (readBlock (documentText entries) = .ok entries ↔
        ∀ word ∈ Value.textsEntries entries, isMiscased word = false) := by
  have rows := isRow_entryRows basic 0
  obtain ⟨entry, rest, rfl⟩ := List.exists_cons_of_ne_nil some'
  have read : readBlock (documentText (entry :: rest)) = .ok (rereadMap (entry :: rest)) := by
    obtain ⟨text, -, -, -, below, begins⟩ := exists_entryRows basic 0
    obtain ⟨found, foundLines, contents⟩ := exists_linesFrom_shown rows 1
    obtain ⟨stack, inside, run⟩ :=
      @arrives_entries _ basic Stack.start Stack.start [] rfl (.refl _) []
    have final : stack.finish = .map (rereadMap (entry :: rest)) := by
      rw [inside.finish, putAll_rereadMap basic fun _ _ => rfl]
      rfl
    have runs := (run_of_content contents Stack.start stack).mpr (by
      rw [List.append_nil] at run
      exact run)
    rw [Yaml.documentText_eq basic some', readBlock_eq, begins,
      lines_dedent_shown rfl (begins ▸ rows), ← begins, readRows, foundLines]
    refine (congrArg (· >>= Block.written) runs).trans ?_
    rw [show (Except.ok stack >>= Block.written) = Block.written stack from rfl, Block.written,
      final]
  refine ⟨read, ?_⟩
  rw [read, Except.ok.injEq]
  exact rereadMap_eq_iff basic

/-- A mapping in a list in a mapping, with a word that YAML takes for a truth value. -/
theorem readBlock_documentText_nested :
    readBlock (documentText [(.text "a".toList, .list [.int (-7), .map
        [(.text "on".toList, .text "yes".toList), (.text "b".toList, .map [])]]),
        (.text "c-d".toList, .text "$\x7bA\x7d".toList)]) =
      .ok [(.text "a".toList, .list [.int (-7), .map
        [(.text "on".toList, .text "yes".toList), (.text "b".toList, .map [])]]),
        (.text "c-d".toList, .text "$\x7bA\x7d".toList)] :=
  (readBlock_documentText (by decide) (by decide)).2.mpr (by decide)

/-- A word in a mixture of cases is written without quotes and read as a truth value. -/
theorem readBlock_documentText_miscased :
    isBasicMap [(.text "a".toList, .text "tRue".toList)] = true ∧
      documentText [(.text "a".toList, .text "tRue".toList)] = "a: tRue\n".toList ∧
      readBlock (documentText [(.text "a".toList, .text "tRue".toList)]) =
        .ok [(.text "a".toList, .bool true)] :=
  ⟨by decide, rfl, rfl⟩

end GuidedMigration.Config.Block
