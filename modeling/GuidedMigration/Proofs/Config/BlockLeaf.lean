/-
This file says what the block reader makes of a leaf or a key that the document writer wrote. What
stands between quotes is that text, and an integer is that integer. A word without quotes is that
word, unless in small letters it is the empty value or a truth value: the reader takes these in any
mixture of cases, and the writer puts quotes around some of them only.

Then it says when open collections may be left open inside a stack. The reader closes a collection
only when a line asks for it, or at the end of the block. One stack stands for another if every line
for the collections of the other one first closes whatever else is open, and so does the end. What
the next lines do can then be read off the other stack.
-/
import GuidedMigration.Proofs.Config.BlockComment
import GuidedMigration.Proofs.Config.BlockLine
import GuidedMigration.Proofs.Yaml.BasicDocument

namespace GuidedMigration.Config.Block

open Text
open Yaml (isBasicLeaf isBasicWord isWordStart isWordPart isQuiet isQuietText leafText inlineText)

variable {char first : Char} {text word rest written : Text} {leaf : Scalar}

/-! ### What a leaf becomes -/

/-- The value of a word that stands without quotes. -/
def bareWord (word : Text) : Scalar :=
  if lower word = ['t', 'r', 'u', 'e'] then .bool true
  else if lower word = ['f', 'a', 'l', 's', 'e'] then .bool false
  else if lower word = ['n', 'u', 'l', 'l'] then .null
  else .text word

/-- The leaf that a written leaf is read as. -/
def rereadLeaf : Scalar → Scalar
  | .text word => if Yaml.Plain.kind word = .text then bareWord word else .text word
  | other => other

/-- Whether a word is a truth value or the empty value for the reader but not for the writer. -/
def isMiscased (word : Text) : Bool :=
  [['t', 'r', 'u', 'e'], ['f', 'a', 'l', 's', 'e'], ['n', 'u', 'l', 'l']].contains (lower word) &&
    !Yaml.reservedWords.contains word

theorem rereadLeaf_eq_iff (basic : isBasicWord word = true) :
    rereadLeaf (.text word) = .text word ↔ isMiscased word = false := by
  have kinds := Yaml.kind_eq_text_iff basic
  rw [rereadLeaf, isMiscased]
  by_cases kept : Yaml.Plain.kind word = .text
  · have free := kinds.mp kept
    rw [if_pos kept, bareWord]
    split
    · simp_all
    · split
      · simp_all
      · split <;> simp_all
  · have reserved : word ∈ Yaml.reservedWords :=
      Decidable.byContradiction fun free => kept (kinds.mpr free)
    simp [kept, reserved]

/-! ### Small letters -/

/-- No capital letter outside ASCII has a tilde for its small form. -/
theorem mapRuns_lowerRuns_ne {code : Nat} (large : 128 ≤ code) : mapRuns lowerRuns code ≠ 126 := by
  have runs : lowerRuns.all (fun run =>
      !decide ((run.1 : Int) ≤ 126 - run.2.2.2 ∧ 126 - run.2.2.2 ≤ run.2.1)) = true := by
    decide +kernel
  rw [mapRuns]
  split
  · rename_i first last step shift found
    have within := List.find?_some found
    have apart := List.all_eq_true.mp runs _ (List.mem_of_find?_eq_some found)
    simp only [Bool.and_eq_true, decide_eq_true_eq, Bool.not_eq_true', decide_eq_false_iff_not]
      at within apart
    omega
  · omega

theorem ofNat_ne_tilde {code : Nat} (other : code ≠ 126) : Char.ofNat code ≠ '~' := by
  intro same
  rw [Char.ofNat] at same
  by_cases valid : code.isValidChar
  · rw [dif_pos valid] at same
    exact other (congrArg Char.toNat same)
  · rw [dif_neg valid] at same
    exact absurd same (by decide)

theorem head?_lowerChar (other : char ≠ '~') : (lowerChar char).head?.any (· != '~') = true := by
  rw [lowerChar]
  split
  · rename_i small
    have ascii := of_ascii (fun char => decide (char = '~') || asciiLower char != '~')
      (by decide +kernel) small
    simpa [other] using ascii
  · rename_i large
    split
    · rfl
    · rw [List.head?_cons, Option.any_some, bne_iff_ne]
      exact ofNat_ne_tilde (mapRuns_lowerRuns_ne (Nat.le_of_not_lt large))

/-- A text in small letters does not start with a tilde if it did not. -/
theorem head?_lower (other : first ≠ '~') :
    (lower (first :: rest)).head?.any (· != '~') = true := by
  rw [lower]
  split
  · rename_i small
    rw [List.all_cons, Bool.and_eq_true, decide_eq_true_eq] at small
    have head := head?_lowerChar other
    rw [lowerChar, if_pos small.1] at head
    exact head
  · rw [lowerAfter]
    split
    · rw [List.singleton_append, List.head?_cons, Option.any_some, bne_iff_ne]
      exact ofNat_ne_tilde (by split <;> decide)
    · have head := head?_lowerChar other
      obtain ⟨small, more, cut⟩ := List.exists_cons_of_ne_nil
        (show lowerChar first ≠ [] by intro none'; rw [none'] at head; cases head)
      rw [cut] at head ⊢
      exact head

/-! ### Reading a leaf -/

theorem splitFirst?_of_not_mem {mark : Char} {more : Text} (missing : mark ∉ text) :
    splitFirst? (mark :: more) text = none := by
  induction text with
  | nil => rfl
  | cons char text inductionHypothesis =>
    rw [List.mem_cons, not_or] at missing
    rw [splitFirst?, dropPrefix?, if_neg missing.1, inductionHypothesis missing.2]
    rfl

theorem isTrimmed_of_isQuietText (quiet : isQuietText text = true) (some' : text ≠ []) :
    IsTrimmed text := by
  have ink {char : Char} (member : char ∈ text) : (!isBlank char) = true := by
    rw [Yaml.isBlank_of_isQuiet (List.all_eq_true.mp quiet char member)]
    rfl
  refine ⟨?_, ?_⟩
  · rw [List.head?_eq_some_head some']
    exact ink (List.head_mem some')
  · rw [List.getLast?_eq_some_getLast some']
    exact ink (List.getLast_mem some')

theorem trimRight_of_isTrimmed (trimmed : IsTrimmed text) : trimRight text = text := by
  have whole := trimmed.trim_eq
  rwa [trim, trimWhile, ← trimLeft, trimLeft_of_begins trimmed.begins] at whole

theorem isQuote_of_isQuiet (quiet : isQuiet char = true) : isQuote char = false := by
  rw [isQuote, decide_eq_false (Yaml.ne_of_isQuiet quiet (by decide)),
    decide_eq_false (Yaml.ne_of_isQuiet quiet (by decide))]
  rfl

theorem head?_isQuote_of_isQuietText (quiet : isQuietText text = true) :
    text.head?.any isQuote = false := by
  cases text with
  | nil => rfl
  | cons first rest => exact isQuote_of_isQuiet (Yaml.isQuietText_cons.mp quiet).1

theorem stripComment_of_isQuietText (quiet : isQuietText text = true) (some' : text ≠ []) :
    stripComment text = text := by
  have noSpace : ' ' ∉ text := Yaml.not_mem_of_isQuietText quiet (by decide)
  rw [stripComment_eq (head?_isQuote_of_isQuietText quiet), uncommented,
    splitFirst?_of_not_mem noSpace]
  exact trimRight_of_isTrimmed (isTrimmed_of_isQuietText quiet some')

theorem unquote_quoted (some' : word ≠ []) : unquote ('\'' :: word ++ ['\'']) = word := by
  obtain ⟨first, rest, rfl⟩ := List.exists_cons_of_ne_nil some'
  have last : (first :: rest ++ ['\'']).getLast? = some '\'' := List.getLast?_concat
  have front : (first :: rest ++ ['\'']).dropLast = first :: rest := List.dropLast_concat
  simp only [List.cons_append] at last front ⊢
  rw [unquote, last, front]
  rfl

/-- What starts with no blank and no quote and has only quiet characters is read by its letters. -/
theorem scalar_of_isQuietText (quiet : isQuietText text = true) (some' : text ≠ []) :
    scalar text =
      if lower text = ['t', 'r', 'u', 'e'] then .ok (.bool true)
      else if lower text = ['f', 'a', 'l', 's', 'e'] then .ok (.bool false)
      else if lower text = ['n', 'u', 'l', 'l'] || lower text = ['~'] || lower text = [] then
        .ok .null
      else if isInteger text then
        if LongInteger.limit < digitCount text then .error (.longInteger ⟨digitCount text⟩)
        else .ok (.int (integerOf text))
      else if text = ['[', ']'] then .ok (.list [])
      else if text = ['\x7b', '\x7d'] then .ok (.map [])
      else .ok (.text text) := by
  rw [scalar, (isTrimmed_of_isQuietText quiet some').trim_eq,
    stripComment_of_isQuietText quiet some', head?_isQuote_of_isQuietText quiet,
    if_neg Bool.false_ne_true]

theorem scalar_word (basic : isBasicWord word = true) :
    scalar word = .ok (.scalar (bareWord word)) := by
  have quiet := Yaml.isQuietText_of_isBasicWord basic
  obtain ⟨first, rest, rfl, starts, -⟩ := Yaml.exists_of_isBasicWord basic
  have small := @head?_lower first rest (Yaml.ne_of_isWordStart starts (by decide))
  have noInteger : isInteger (first :: rest) = false := by
    rw [isInteger]
    · rw [List.all_cons, Yaml.isDigit_of_isWordStart starts, Bool.false_and, Bool.and_false]
    · rintro more same
      exact Yaml.ne_of_isWordStart starts (by decide) (List.cons.inj same).1
  have noTilde : lower (first :: rest) ≠ ['~'] := by
    intro same
    rw [same] at small
    exact absurd small (by decide)
  have some' : lower (first :: rest) ≠ [] := by
    intro same
    rw [same] at small
    cases small
  have noList : first :: rest ≠ ['[', ']'] := fun same =>
    Yaml.ne_of_isWordStart starts (by decide : isWordStart '[' = false) (List.cons.inj same).1
  have noMap : first :: rest ≠ ['\x7b', '\x7d'] := fun same =>
    Yaml.ne_of_isWordStart starts (by decide : isWordStart '\x7b' = false) (List.cons.inj same).1
  rw [scalar_of_isQuietText quiet (List.cons_ne_nil _ _), noInteger, if_neg noList, if_neg noMap,
    bareWord, decide_eq_false noTilde, decide_eq_false some', Bool.or_false, Bool.or_false]
  simp only [decide_eq_true_eq, Bool.false_eq_true, if_false]
  split
  · rfl
  · split
    · rfl
    · split <;> rfl

theorem mem_ofInt {number : Int} (member : char ∈ ofInt number) :
    isAsciiDigit char = true ∨ char = '-' := by
  rw [ofInt_eq, List.mem_append] at member
  rcases member with sign | digit
  · split at sign
    · exact Or.inr (List.mem_singleton.mp sign)
    · cases sign
  · exact Or.inl (isAsciiDigit_of_mem_ofNat digit)

theorem lower_ofInt (number : Int) : lower (ofInt number) = ofInt number := by
  have same : ∀ char ∈ ofInt number, char.toNat < 128 ∧ asciiLower char = char := by
    intro char member
    rcases mem_ofInt member with digit | rfl
    · have small := toNat_of_isAsciiDigit digit
      have ascii := of_ascii (fun char => !isAsciiDigit char || asciiLower char = char)
        (by decide +kernel) small
      rw [digit] at ascii
      exact ⟨small, by simpa using ascii⟩
    · decide
  have small : (ofInt number).all (·.toNat < 128) = true :=
    List.all_eq_true.mpr fun char member => decide_eq_true (same char member).1
  rw [lower, if_pos small, List.map_congr_left fun char member => (same char member).2,
    List.map_id']

/-- Digits are an integer that has no sign. -/
theorem integer_ofNat (number : Nat) :
    isInteger (ofNat number) = true ∧ integerOf (ofNat number) = number ∧
      digitCount (ofNat number) = (ofNat number).length := by
  have noSign {more : Text} : ofNat number ≠ '-' :: more := fun same =>
    absurd (isAsciiDigit_of_mem_ofNat (same ▸ List.mem_cons_self)) (by decide : ¬ _ = true)
  have digits : (ofNat number).all isDigit = true := List.all_eq_true.mpr fun char member =>
    isDigit_of_isAsciiDigit (isAsciiDigit_of_mem_ofNat member)
  have some' : (ofNat number).isEmpty = false := by simpa using ofNat_ne_nil number
  refine ⟨?_, ?_, ?_⟩
  · rw [isInteger, digits, some']
    · rfl
    · exact fun more same => noSign same
  · rw [integerOf, numberOf_ofNat]
    exact fun more same => noSign same
  · rw [digitCount]
    exact fun more same => noSign same

theorem integer_ofInt (number : Int) :
    isInteger (ofInt number) = true ∧ integerOf (ofInt number) = number ∧
      digitCount (ofInt number) = (ofNat number.natAbs).length := by
  cases number with
  | ofNat number => exact integer_ofNat number
  | negSucc number =>
    have digits : (ofNat (number + 1)).all isDigit = true := List.all_eq_true.mpr
      fun char member => isDigit_of_isAsciiDigit (isAsciiDigit_of_mem_ofNat member)
    have some' : (ofNat (number + 1)).isEmpty = false := by simpa using ofNat_ne_nil (number + 1)
    refine ⟨?_, ?_, rfl⟩
    · rw [ofInt, isInteger, digits, some']
      rfl
    · rw [ofInt, integerOf, numberOf_ofNat]
      rfl

theorem scalar_integer (number : Int) (short : (ofNat number.natAbs).length ≤ LongInteger.limit) :
    scalar (ofInt number) = .ok (.int number) := by
  obtain ⟨isInteger', value, count⟩ := integer_ofInt number
  have some' : ofInt number ≠ [] := fun none' => by
    rw [none'] at isInteger'
    cases isInteger'
  have other {char : Char} {rest : Text} (noDigit : isAsciiDigit char = false)
      (noSign : char ≠ '-') : ofInt number ≠ char :: rest := by
    intro same
    rcases mem_ofInt (same ▸ List.mem_cons_self : char ∈ ofInt number) with digit | sign
    · exact Bool.false_ne_true (noDigit.symm.trans digit)
    · exact noSign sign
  rw [scalar_of_isQuietText (Yaml.isQuietText_ofInt number) some', lower_ofInt, isInteger', value,
    count, if_neg (other (by decide) (by decide)), if_neg (other (by decide) (by decide)),
    if_neg (by simp [@other 'n' _ (by decide) (by decide), @other '~' _ (by decide) (by decide),
      some']), if_pos rfl, if_neg (Nat.not_lt.mpr short)]

theorem scalar_quoted (some' : word ≠ []) :
    scalar ('\'' :: word ++ ['\'']) = .ok (.text word) := by
  have trimmed : IsTrimmed ('\'' :: word ++ ['\'']) :=
    ⟨rfl, by rw [List.getLast?_concat]; rfl⟩
  have quoted : ('\'' :: word ++ ['\'']).head?.any isQuote = true := rfl
  rw [scalar, trimmed.trim_eq, stripComment, if_pos quoted, if_pos quoted, unquote_quoted some']

/-- A basic leaf is read as itself, up to words that the reader takes for something else. -/
theorem scalar_leafText (basic : isBasicLeaf leaf = true) :
    scalar (leafText leaf) = .ok (.scalar (rereadLeaf leaf)) := by
  cases leaf with
  | null => rfl
  | bool truth => cases truth <;> rfl
  | int number => exact scalar_integer number (of_decide_eq_true basic)
  | text word =>
    rw [leafText, rereadLeaf]
    split
    · exact scalar_word basic
    · obtain ⟨first, rest, rfl, -⟩ := Yaml.exists_of_isBasicWord basic
      exact scalar_quoted (List.cons_ne_nil _ _)
  | _ => cases basic

/-! ### Pieces of a row -/

theorem entry?_of_isQuietText (quiet : isQuietText text = true) (some' : text ≠ []) (behind : Text)
    (stops : behind.head?.all (fun char => char = ':' || char = '#') = true) :
    entry? (text ++ behind) = (afterColon? behind).map (text, ·) := by
  have begins : text.head?.any (fun char => !isQuote char && !isBlank char) = true := by
    obtain ⟨first, rest, rfl⟩ := List.exists_cons_of_ne_nil some'
    have quietFirst := (Yaml.isQuietText_cons.mp quiet).1
    rw [List.head?_cons, Option.any_some, isQuote_of_isQuiet quietFirst,
      Yaml.isBlank_of_isQuiet quietFirst]
    rfl
  rw [entry?_plain begins (Yaml.not_mem_of_isQuietText quiet (by decide))
    (Yaml.not_mem_of_isQuietText quiet (by decide)) behind stops,
    trimRight_of_isTrimmed (isTrimmed_of_isQuietText quiet some')]

theorem entry?_of_quoted (quiet : isQuietText word = true) (some' : word ≠ []) (behind : Text) :
    entry? ('\'' :: word ++ ['\''] ++ behind) = (afterColon? (trimLeft behind)).map (word, ·) := by
  have whole : '\'' :: word ++ ['\''] ++ behind = '\'' :: (word ++ '\'' :: behind) := by simp
  rw [whole, entry?_quoted (by decide) (Yaml.not_mem_of_isQuietText quiet (by decide)),
    if_neg (by simpa using some')]

/-- A leaf, a key or an empty collection as it stands in a row: quiet characters, or such
characters between quotes. -/
inductive IsPiece : Text → Prop
  | plain {text : Text} (quiet : isQuietText text = true) (some' : text ≠ []) : IsPiece text
  | quoted {word : Text} (quiet : isQuietText word = true) (some' : word ≠ []) :
      IsPiece ('\'' :: word ++ ['\''])

theorem isPiece_leafText (basic : isBasicLeaf leaf = true) : IsPiece (leafText leaf) := by
  cases leaf with
  | null => exact .plain (by decide) (by decide)
  | bool truth => cases truth <;> exact .plain (by decide) (by decide)
  | int number =>
    refine .plain (Yaml.isQuietText_ofInt number) fun none' => ?_
    have digits : ofInt number = [] := none'
    rw [ofInt_eq] at digits
    exact ofNat_ne_nil number.natAbs (List.append_eq_nil_iff.mp digits).2
  | text word =>
    have quiet := Yaml.isQuietText_of_isBasicWord basic
    obtain ⟨first, rest, rfl, -⟩ := Yaml.exists_of_isBasicWord basic
    rw [leafText]
    split
    · exact .plain quiet (List.cons_ne_nil _ _)
    · exact .quoted quiet (List.cons_ne_nil _ _)
  | _ => cases basic

namespace IsPiece

theorem isBlank_of_mem (piece : IsPiece text) (member : char ∈ text) : isBlank char = false := by
  cases piece with
  | plain quiet some' => exact Yaml.isBlank_of_isQuiet (List.all_eq_true.mp quiet char member)
  | quoted quiet some' =>
    rw [List.cons_append, List.mem_cons, List.mem_append, List.mem_singleton] at member
    rcases member with rfl | inside | rfl
    · decide
    · exact Yaml.isBlank_of_isQuiet (List.all_eq_true.mp quiet char inside)
    · decide

theorem isTrimmed (piece : IsPiece text) : IsTrimmed text := by
  cases piece with
  | plain quiet some' => exact isTrimmed_of_isQuietText quiet some'
  | quoted quiet some' => exact ⟨rfl, by rw [List.getLast?_concat]; rfl⟩

theorem stripComment_ne_nil (piece : IsPiece text) : stripComment text ≠ [] := by
  cases piece with
  | plain quiet some' => rwa [stripComment_of_isQuietText quiet some']
  | quoted quiet some' => exact List.cons_ne_nil _ _

/-- A piece alone is no entry. -/
theorem entry?_eq_none (piece : IsPiece text) : entry? text = none := by
  rw [← List.append_nil text]
  cases piece with
  | plain quiet some' => exact entry?_of_isQuietText quiet some' [] rfl
  | quoted quiet some' => exact entry?_of_quoted quiet some' []

end IsPiece

/-- What stands in front of a colon is the key of an entry. -/
theorem entry?_leafText (basic : isBasicWord word = true) (behind : Text) :
    entry? (leafText (.text word) ++ ':' :: behind) =
      (afterColon? (':' :: behind)).map (word, ·) := by
  have quiet := Yaml.isQuietText_of_isBasicWord basic
  obtain ⟨first, rest, rfl, -⟩ := Yaml.exists_of_isBasicWord basic
  rw [leafText]
  split
  · exact entry?_of_isQuietText quiet (List.cons_ne_nil _ _) _ rfl
  · exact entry?_of_quoted quiet (List.cons_ne_nil _ _) _

end GuidedMigration.Config.Block

namespace GuidedMigration.Config.Block

open Text

/-- Whether an open collection is a list. -/
def Open.isList : Open → Bool
  | .mapping _ => false
  | .list _ => true

/-- The stack when a line has closed what it closes. -/
def Stack.settled (indent : Nat) (item : Bool) (stack : Stack) : Stack :=
  stack.unwind indent item stack.frames.length

/-- Whether a line goes to the innermost collection of a stack or to one around it. -/
def Stack.Reaches (indent : Nat) (item : Bool) (stack : Stack) : Prop :=
  indent < stack.level ∨ indent = stack.level ∧ (item = true → stack.top.isList = true)

/-- Whether a stack comes down to another one before any line for that one, and at the end. -/
structure Stack.Inside (base stack : Stack) : Prop where
  finish : stack.finish = base.finish
  reaches : ∀ {indent : Nat} {item : Bool}, base.Reaches indent item → stack.Reaches indent item
  settled : ∀ {indent : Nat} {item : Bool}, base.Reaches indent item →
    stack.settled indent item = base.settled indent item

variable {base middle stack outer : Stack} {indent : Nat} {item : Bool} {line : Line} {key : Text}
  {value : Option Text} {entries : Mapping}

/-! ### Closing -/

theorem settled_of_not_closes (stays : stack.closes indent item = false) :
    stack.settled indent item = stack := by
  rw [Stack.settled]
  cases stack.frames.length with
  | zero => rfl
  | succ fuel => rw [Stack.unwind, stays, if_neg Bool.false_ne_true]

theorem settled_of_pop? (closes : stack.closes indent item = true)
    (popped : stack.pop? = some outer) :
    stack.settled indent item = outer.settled indent item := by
  obtain ⟨level, top, frames⟩ := stack
  cases frames with
  | nil => cases popped
  | cons frame frames =>
    obtain rfl := Option.some.inj popped
    rw [Stack.settled, List.length_cons, Stack.unwind, closes, if_pos rfl]
    rfl

theorem closes_of_pop? (popped : stack.pop? = some outer)
    (asked : indent < stack.level ∨ stack.top.isList = true ∧ indent = stack.level ∧ item = false) :
    stack.closes indent item = true := by
  obtain ⟨level, top, frames⟩ := stack
  cases frames with
  | nil => cases popped
  | cons frame frames =>
    rcases asked with lower | ⟨isList, same, noItem⟩
    · simp [Stack.closes, show indent < level from lower]
    · cases top with
      | mapping entries => cases isList
      | list items => simp [Stack.closes, show indent = level from same, noItem]

/-- A line at the level of the innermost collection, and of its kind, closes nothing. -/
theorem settled_self (kind : item = stack.top.isList) :
    stack.settled stack.level item = stack := by
  obtain ⟨level, top, frames⟩ := stack
  refine settled_of_not_closes ?_
  rw [kind, Stack.closes]
  cases top <;> simp [Open.isList]

/-! ### One stack inside another -/

namespace Stack.Inside

theorem refl (base : Stack) : base.Inside base := ⟨rfl, id, fun _ => rfl⟩

theorem trans (first : base.Inside middle) (second : middle.Inside stack) :
    base.Inside stack where
  finish := second.finish.trans first.finish
  reaches reached := second.reaches (first.reaches reached)
  settled reached := (second.settled (first.reaches reached)).trans (first.settled reached)

/-- A collection that is indented deeper than the one around it, or is a list in a mapping at the
same level, is closed before any line for that one. -/
theorem of_pop? (popped : stack.pop? = some outer)
    (deeper : outer.level < stack.level ∨
      outer.level = stack.level ∧ stack.top.isList = true ∧ outer.top.isList = false) :
    outer.Inside stack := by
  have asked {indent : Nat} {item : Bool} (reached : outer.Reaches indent item) :
      indent < stack.level ∨ stack.top.isList = true ∧ indent = stack.level ∧ item = false := by
    rcases deeper with less | ⟨same, isList, noList⟩
    · exact Or.inl (reached.elim (Nat.lt_trans · less) fun here => here.1 ▸ less)
    · rcases reached with lower | ⟨here, kind⟩
      · exact Or.inl (same ▸ lower)
      · refine Or.inr ⟨isList, here.trans same, Bool.eq_false_iff.mpr fun item => ?_⟩
        exact Bool.false_ne_true (noList.symm.trans (kind item))
  refine ⟨?_, fun reached => (asked reached).imp_right fun here => ⟨here.2.1, fun _ => here.1⟩,
    fun reached => settled_of_pop? (closes_of_pop? popped (asked reached)) popped⟩
  obtain ⟨level, top, frames⟩ := stack
  cases frames with
  | nil => cases popped
  | cons frame frames =>
    obtain rfl := Option.some.inj popped
    rfl

/-- A line for a stack is read by one inside it as by itself. -/
theorem step (inside : base.Inside stack) (level : line.indent = base.level)
    (kind : isItem line.text = base.top.isList) (next : Option Line) :
    stack.step line next = base.step line next := by
  have same := inside.settled (Or.inr ⟨level, fun item => kind ▸ item⟩)
  rw [Stack.settled, Stack.settled] at same
  rw [Stack.step, Stack.step, same]

end Stack.Inside

/-! ### Lines for the innermost collection -/

theorem step_item (level : line.indent = stack.level) (isList : stack.top.isList = true)
    (item : isItem line.text = true) (next : Option Line) :
    stack.step line next = stack.readItem line next := by
  have stays := settled_self (item.trans isList.symm)
  rw [← level, Stack.settled] at stays
  rw [Stack.step, stays, if_neg (by simp [level]), if_pos item]

/-- An entry for a mapping is written to its key. -/
theorem step_entry (level : line.indent = stack.level) (top : stack.top = .mapping entries)
    (noItem : isItem line.text = false) (found : entry? line.text = some (key, value))
    (next : Option Line) :
    stack.step line next = stack.assign key value next stack.level := by
  have kind : stack.top.isList = false := by rw [top]; rfl
  have stays := settled_self (noItem.trans kind.symm)
  rw [← level, Stack.settled] at stays
  rw [Stack.step, stays, if_neg (by simp [level]), noItem, if_neg Bool.false_ne_true,
    Stack.readEntry, top, found, level]

/-- A key without a value in front of a line for a collection of its own opens that collection. -/
theorem assign_opens
    (deeper : indent < line.indent ∨ indent = line.indent ∧ isItem line.text = true)
    (stack : Stack) (key : Text) :
    stack.assign key none (some line) indent =
      .ok (stack.push (.key key) line.indent
        (if isItem line.text then .list [] else .mapping [])) := by
  have opens : (decide (indent < line.indent) || (decide (indent = line.indent) &&
      isItem line.text)) = true := by simpa using deeper
  rw [Stack.assign, Option.filter_none, opens]
  rfl

theorem put_put (key : Scalar) (first second : Value) (mapping : Mapping) :
    Mapping.put key second (Mapping.put key first mapping) = Mapping.put key second mapping := by
  induction mapping with
  | nil => simp [Mapping.put, Scalar.same_refl]
  | cons entry rest inductionHypothesis =>
    obtain ⟨other, old⟩ := entry
    by_cases same : other.same key = true
    · simp [Mapping.put, same]
    · simp [Mapping.put, same, inductionHypothesis]

theorem level_push (slot : Slot) (level : Nat) (inner : Open) (stack : Stack) :
    (stack.push slot level inner).level = level := rfl

/-- A collection at a key, filled and closed. -/
theorem pop?_push_key (top : stack.top = .mapping entries) (key : Text) (level : Nat)
    (inner filled : Open) :
    Stack.pop? ⟨level, filled, (stack.push (.key key) level inner).frames⟩ =
      some ⟨stack.level, .mapping (Mapping.put (.text key) filled.close entries),
        stack.frames⟩ := by
  rw [Stack.push, Stack.pop?, top]
  simp only [Open.write, put_put]

/-- A collection behind a dash, filled and closed. -/
theorem pop?_push_item {done : List Value} (top : stack.top = .list done) (level : Nat)
    (inner filled : Open) :
    Stack.pop? ⟨level, filled, (stack.push .item level inner).frames⟩ =
      some ⟨stack.level, .list (filled.close :: done), stack.frames⟩ := by
  rw [Stack.push, Stack.pop?, top]
  rfl

end GuidedMigration.Config.Block
