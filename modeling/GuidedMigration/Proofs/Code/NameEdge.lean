/-
This file asks whether the deletion of a snippet cuts names. What is removed begins with the name
that the snippet begins with, but nothing in the patterns looks at the character before it: where
the name ends a longer one, the end of the longer one goes. If the name stands nowhere directly
behind a part of a name, it stands so nowhere after a removal either, because what is left in front
of the removed part does not end in a part of a name; so both patterns cut no names.
-/
import GuidedMigration.Instruction.Quoted
import GuidedMigration.Proofs.Code.PatternMatch

namespace GuidedMigration.Code

open Text

/-! ### Names -/

/-- Whether a character can be a part of a name. -/
def isNamePart (char : Char) : Bool := isWord char || char = '$'

variable {char : Char} {word text rest content snippet : Text} {before : Option Char}

theorem not_mem_of_isNamePart {chars : List Char} (others : chars.all (!isNamePart ·) = true)
    (part : isNamePart char = true) : chars.contains char = false := by
  refine Bool.eq_false_iff.mpr fun member => ?_
  have other := List.all_eq_true.mp others char (List.contains_iff_mem.mp member)
  rw [part] at other
  exact Bool.false_ne_true other

theorem not_isBlank_of_isNamePart (part : isNamePart char = true) : isBlank char = false := by
  refine Bool.eq_false_iff.mpr fun blank => ?_
  rw [isNamePart, not_isWord_of_isBlank blank, Bool.false_or, decide_eq_true_eq] at part
  rw [part] at blank
  exact absurd blank (by decide)

theorem loosePieces_of_isNamePart (part : isNamePart char = true) :
    loosePieces char = [.char char] := by
  have noQuote : quotes.contains char = false := not_mem_of_isNamePart (by decide) part
  have notLoose : isLoose char = false := not_mem_of_isNamePart (by decide) part
  rw [loosePieces, noQuote, not_isBlank_of_isNamePart part, notLoose]
  rfl

/-- In the layout of code, the parts of names stay as they are. -/
theorem loosely_append (parts : word.all isNamePart = true) (text : Text) :
    loosely (word ++ text) = exactly word ++ loosely text := by
  induction word with
  | nil => rfl
  | cons char word inductionHypothesis =>
    rw [List.all_cons, Bool.and_eq_true] at parts
    have further := inductionHypothesis parts.2
    rw [loosely] at further ⊢
    rw [List.cons_append, List.flatMap_cons, loosePieces_of_isNamePart parts.1]
    show PatternPiece.char char :: mergeGaps ((word ++ text).flatMap loosePieces) = _
    rw [further]
    rfl

/-- The name that the code of a snippet begins with. -/
def leadingName (snippet : Text) : Text := (snippetBody snippet).takeWhile isNamePart

/-- Both patterns of a snippet begin with its name. -/
theorem exists_of_mem_snippetPatterns {pattern : Pattern}
    (member : pattern ∈ snippetPatterns snippet) :
    ∃ more, pattern = exactly (leadingName snippet) ++ more := by
  have cut : leadingName snippet ++ (snippetBody snippet).dropWhile isNamePart =
      snippetBody snippet := List.takeWhile_append_dropWhile
  have parts : (leadingName snippet).all isNamePart = true := List.all_takeWhile
  rw [snippetPatterns] at member
  split at member
  · cases member
  · rw [← cut, loosely_append parts, exactly, List.map_append, List.append_assoc,
      List.append_assoc] at member
    rcases List.mem_cons.mp member with same | other
    · exact ⟨_, same⟩
    · exact ⟨_, List.mem_singleton.mp other⟩

theorem startsWith_of_match? {more : Pattern} {behind : Place}
    (matched : Pattern.match? (exactly word ++ more) ⟨before, text⟩ = some behind) :
    startsWith word text = true := by
  rw [match?_exactly] at matched
  obtain ⟨rest, found, -⟩ := Option.bind_eq_some_iff.mp matched
  rw [startsWith, found]
  rfl

/-! ### What is removed -/

/-- A part of a text that is removed: the character before it, and the part. -/
structure Occurrence where
  before : Option Char
  text : Text
  deriving DecidableEq

/-- Whether a part that is removed begins at the edge of a name. -/
def Occurrence.atEdge (occurrence : Occurrence) : Bool := occurrence.before.all (!isNamePart ·)

/-- What is left of a text from a place on when every occurrence of a pattern is removed, and the
occurrences; `skip` characters still belong to the last one. -/
def sweepFrom (pattern : Pattern) : Nat → Option Char → Text → Text × List Occurrence
  | 0, before, [] => match Pattern.match? pattern ⟨before, []⟩ with
    | some _ => ([], [⟨before, []⟩])
    | none => ([], [])
  | _ + 1, _, [] => ([], [])
  | skip + 1, _, char :: rest => sweepFrom pattern skip (some char) rest
  | 0, before, char :: rest =>
    match Pattern.match? pattern ⟨before, char :: rest⟩ with
    | some behind =>
      let size := (char :: rest).length - behind.rest.length
      if size = 0 then
        let (kept, found) := sweepFrom pattern 0 (some char) rest
        (char :: kept, ⟨before, []⟩ :: found)
      else
        let (kept, found) := sweepFrom pattern (size - 1) (some char) rest
        (kept, ⟨before, (char :: rest).take size⟩ :: found)
    | none =>
      let (kept, found) := sweepFrom pattern 0 (some char) rest
      (char :: kept, found)

/-- What is left of a content when every occurrence of every pattern is removed, one pattern after
the other, and all occurrences. -/
def sweepAll : List Pattern → Text → Text × List Occurrence
  | [], content => (content, [])
  | pattern :: patterns, content =>
    let (kept, found) := sweepFrom pattern 0 none content
    let (left, further) := sweepAll patterns kept
    (left, found ++ further)

theorem deleteFrom_eq (pattern : Pattern) (skip : Nat) (before : Option Char) (text : Text) :
    deleteFrom pattern skip before text = ((sweepFrom pattern skip before text).1,
      (sweepFrom pattern skip before text).2.length) := by
  fun_induction sweepFrom pattern skip before text with
  | case1 before behind found => rw [deleteFrom, found]; rfl
  | case2 before missing => rw [deleteFrom, missing]; rfl
  | case3 => rfl
  | case4 skip _ char rest inductionHypothesis => exact inductionHypothesis
  | case5 before char rest behind found size none' kept others swept inductionHypothesis =>
    rw [swept] at inductionHypothesis
    rw [deleteFrom, found]
    dsimp only
    rw [if_pos none', inductionHypothesis]
    rfl
  | case6 before char rest behind found size some' kept others swept inductionHypothesis =>
    rw [swept] at inductionHypothesis
    rw [deleteFrom, found]
    dsimp only
    rw [if_neg some', inductionHypothesis]
    rfl
  | case7 before char rest missing kept others swept inductionHypothesis =>
    rw [swept] at inductionHypothesis
    rw [deleteFrom, missing]
    dsimp only
    rw [inductionHypothesis]

theorem foldl_deletePattern (content : Text) (patterns : List Pattern) (total : Nat) :
    patterns.foldl (fun found pattern => ((deletePattern found.1 pattern).1,
      found.2 + (deletePattern found.1 pattern).2)) (content, total) =
        ((sweepAll patterns content).1, total + (sweepAll patterns content).2.length) := by
  induction patterns generalizing content total with
  | nil => rfl
  | cons pattern patterns inductionHypothesis =>
    rw [List.foldl_cons, sweepAll]
    dsimp only
    rw [deletePattern, deleteFrom_eq, inductionHypothesis, List.length_append, Nat.add_assoc]

theorem deletePatterns_eq (content : Text) (patterns : List Pattern) :
    deletePatterns content patterns =
      (if (sweepAll patterns content).2 = [] then (sweepAll patterns content).1
        else collapseBlankLines (sweepAll patterns content).1,
        (sweepAll patterns content).2.length) := by
  have folded := foldl_deletePattern content patterns 0
  rw [Nat.zero_add] at folded
  rw [deletePatterns, show patterns.foldl _ (content, 0) = _ from folded]
  simp only [List.length_eq_zero_iff]

/-- Whether a content is a text with further parts in it, in their order. -/
inductive Woven : Text → List Text → Text → Prop
  | nil : Woven [] [] []
  | keep {kept : Text} {parts : List Text} {content : Text} (char : Char)
      (woven : Woven kept parts content) : Woven (char :: kept) parts (char :: content)
  | part {kept : Text} {parts : List Text} {content : Text} (part : Text)
      (woven : Woven kept parts content) : Woven kept (part :: parts) (part ++ content)

/-- What is left and what is removed make up the text. -/
theorem woven_sweepFrom (pattern : Pattern) (skip : Nat) (before : Option Char) (text : Text) :
    Woven (sweepFrom pattern skip before text).1
      ((sweepFrom pattern skip before text).2.map Occurrence.text) (text.drop skip) := by
  fun_induction sweepFrom pattern skip before text with
  | case1 => exact .part [] .nil
  | case2 => exact .nil
  | case3 => exact .nil
  | case4 skip _ char rest inductionHypothesis => exact inductionHypothesis
  | case5 before char rest behind found size none' kept others swept inductionHypothesis =>
    rw [swept] at inductionHypothesis
    exact .part [] (.keep char inductionHypothesis)
  | case6 before char rest behind found size some' kept others swept inductionHypothesis =>
    rw [swept] at inductionHypothesis
    have parted := Woven.part ((char :: rest).take size) inductionHypothesis
    have whole : (char :: rest).take size ++ rest.drop (size - 1) = char :: rest := by
      obtain ⟨more, isMore⟩ := Nat.exists_eq_succ_of_ne_zero some'
      rw [isMore, List.take_succ_cons, Nat.succ_sub_one, List.cons_append, List.take_append_drop]
    rwa [whole] at parted
  | case7 before char rest missing kept others swept inductionHypothesis =>
    rw [swept] at inductionHypothesis
    exact .keep char inductionHypothesis

/-! ### Names that are not cut -/

/-- Whether a word stands at a place directly behind a part of a name. -/
def cutsName (word : Text) (place : Place) : Bool :=
  place.before.any isNamePart && startsWith word place.rest

/-- Whether a word stands nowhere in a content directly behind a part of a name. -/
def StandsApart (word content : Text) : Prop :=
  ∀ left char right, content = left ++ char :: (word ++ right) → isNamePart char = false

theorem startsWith_iff : startsWith word text = true ↔ ∃ right, text = word ++ right := by
  constructor
  · intro starts
    obtain ⟨right, found⟩ := Option.isSome_iff_exists.mp starts
    exact ⟨right, dropPrefix?_eq_some found⟩
  · rintro ⟨right, rfl⟩
    rw [startsWith, dropPrefix?_append]
    rfl

theorem nowhere_cutsName_cons : nowhere (cutsName word) before (char :: text) [] = true ↔
    cutsName word ⟨before, char :: text⟩ = false ∧
      nowhere (cutsName word) (some char) text [] = true := by
  rw [nowhere_cons, List.append_nil]

theorem nowhere_cutsName_iff (written : word ≠ []) :
    nowhere (cutsName word) before text [] = true ↔
      cutsName word ⟨before, text⟩ = false ∧ StandsApart word text := by
  induction text generalizing before with
  | nil =>
    refine iff_of_true rfl ⟨?_, fun left char right split => by simp at split⟩
    obtain ⟨first, word, rfl⟩ := List.exists_cons_of_ne_nil written
    rw [cutsName, startsWith, dropPrefix?]
    simp
  | cons char text inductionHypothesis =>
    rw [nowhere_cutsName_cons, inductionHypothesis]
    refine and_congr_right fun _ => ⟨?_, fun apart => ⟨?_, ?_⟩⟩
    · rintro ⟨here, apart⟩ left other right split
      cases left with
      | nil =>
        obtain ⟨rfl, rfl⟩ := List.cons.inj split
        rw [cutsName, startsWith_iff.mpr ⟨right, rfl⟩, Bool.and_true] at here
        exact here
      | cons _ left => exact apart left other right (List.cons.inj split).2
    · rw [cutsName, Bool.and_eq_false_iff, Decidable.or_iff_not_imp_right, Bool.not_eq_false,
        startsWith_iff]
      rintro ⟨right, rfl⟩
      exact apart [] char right rfl
    · intro left other right split
      exact apart (char :: left) other right (by rw [split, List.cons_append])

section Sweep

variable {pattern more : Pattern}

/-- An occurrence of a pattern that begins with a word cuts no name where the word cuts none. -/
theorem not_isNamePart_of_match? {behind : Place} (leads : pattern = exactly word ++ more)
    (apart : cutsName word ⟨before, text⟩ = false)
    (matched : Pattern.match? pattern ⟨before, text⟩ = some behind) :
    before.any isNamePart = false := by
  rw [leads] at matched
  rwa [cutsName, startsWith_of_match? matched, Bool.and_true] at apart

theorem match?_nil (leads : pattern = exactly word ++ more) (written : word ≠ [])
    (before : Option Char) : Pattern.match? pattern ⟨before, []⟩ = none := by
  obtain ⟨first, word, rfl⟩ := List.exists_cons_of_ne_nil written
  rw [leads, match?_exactly]
  rfl

/-- Every occurrence that is removed is at the edge of a name. -/
theorem atEdge_of_mem_sweepFrom (leads : pattern = exactly word ++ more) (written : word ≠ [])
    {skip : Nat} (apart : nowhere (cutsName word) before text [] = true) {occurrence : Occurrence}
    (member : occurrence ∈ (sweepFrom pattern skip before text).2) : occurrence.atEdge = true := by
  have edge {before : Option Char} {part : Text} (apart : before.any isNamePart = false) :
      Occurrence.atEdge ⟨before, part⟩ = true := by
    cases before with
    | none => rfl
    | some char => simpa [Occurrence.atEdge] using apart
  fun_induction sweepFrom pattern skip before text with
  | case1 before behind found => simp [match?_nil leads written] at found
  | case2 => cases member
  | case3 => cases member
  | case4 skip _ char rest inductionHypothesis =>
    exact inductionHypothesis (nowhere_cutsName_cons.mp apart).2 member
  | case5 before char rest behind found size none' kept others swept inductionHypothesis =>
    obtain ⟨here, further⟩ := nowhere_cutsName_cons.mp apart
    rcases List.mem_cons.mp member with rfl | other
    · exact edge (not_isNamePart_of_match? leads here found)
    · exact inductionHypothesis further (by rwa [swept])
  | case6 before char rest behind found size some' kept others swept inductionHypothesis =>
    obtain ⟨here, further⟩ := nowhere_cutsName_cons.mp apart
    rcases List.mem_cons.mp member with rfl | other
    · exact edge (not_isNamePart_of_match? leads here found)
    · exact inductionHypothesis further (by rwa [swept])
  | case7 before char rest missing kept others swept inductionHypothesis =>
    exact inductionHypothesis (nowhere_cutsName_cons.mp apart).2 (by rwa [swept])

/-- A name that is left directly behind a part of a name stood there before: a removed part in
between would begin behind a part of a name. -/
theorem startsWith_of_sweepFrom (leads : pattern = exactly word ++ more)
    (apart : nowhere (cutsName word) before text [] = true) (behind : before.any isNamePart = true)
    {name : Text} (parts : name.all isNamePart = true)
    (starts : startsWith name (sweepFrom pattern 0 before text).1 = true) :
    startsWith name text = true := by
  induction text generalizing before name with
  | nil =>
    rw [sweepFrom] at starts
    split at starts <;> exact starts
  | cons char text inductionHypothesis =>
    obtain ⟨here, further⟩ := nowhere_cutsName_cons.mp apart
    cases matched : Pattern.match? pattern ⟨before, char :: text⟩ with
    | some place =>
      exact absurd (not_isNamePart_of_match? leads here matched) (by simp [behind])
    | none =>
      rw [sweepFrom, matched] at starts
      obtain ⟨right, cut⟩ := startsWith_iff.mp starts
      cases name with
      | nil => rfl
      | cons first name =>
        obtain ⟨rfl, same⟩ := List.cons.inj cut
        rw [List.all_cons, Bool.and_eq_true] at parts
        have inside := inductionHypothesis further parts.1 parts.2
          (startsWith_iff.mpr ⟨right, same⟩)
        obtain ⟨right, rfl⟩ := startsWith_iff.mp inside
        exact startsWith_iff.mpr ⟨right, rfl⟩

/-- What is left cuts no name either. `left` is the character in front of it: the one in front of
the text, or behind a removed part one that is no part of a name. -/
theorem nowhere_sweepFrom (leads : pattern = exactly word ++ more)
    (parts : word.all isNamePart = true) {skip : Nat}
    (apart : nowhere (cutsName word) before text [] = true) (left : Option Char) :
    skip = 0 ∧ left = before ∨ left.any isNamePart = false →
      nowhere (cutsName word) left (sweepFrom pattern skip before text).1 [] = true := by
  have free {left : Option Char} {text : Text} (edge : left.any isNamePart = false) :
      cutsName word ⟨left, text⟩ = false := by rw [cutsName, edge, Bool.false_and]
  have edgeOf {before left : Option Char} {text : Text} {behind : Place} {skips : Prop}
      (here : cutsName word ⟨before, text⟩ = false)
      (found : Pattern.match? pattern ⟨before, text⟩ = some behind)
      (same : skips ∧ left = before ∨ left.any isNamePart = false) :
      left.any isNamePart = false :=
    same.elim (fun both => both.2 ▸ not_isNamePart_of_match? leads here found) id
  fun_induction sweepFrom pattern skip before text generalizing left with
  | case1 => exact fun _ => rfl
  | case2 => exact fun _ => rfl
  | case3 => exact fun _ => rfl
  | case4 skip _ char rest inductionHypothesis =>
    intro same
    have edge := same.resolve_left fun both => Nat.succ_ne_zero skip both.1
    exact inductionHypothesis (nowhere_cutsName_cons.mp apart).2 _ (.inr edge)
  | case5 before char rest behind found size none' kept others swept inductionHypothesis =>
    intro same
    obtain ⟨here, further⟩ := nowhere_cutsName_cons.mp apart
    have edge := edgeOf here found same
    rw [swept] at inductionHypothesis
    exact nowhere_cutsName_cons.mpr ⟨free edge, inductionHypothesis further _ (.inl ⟨rfl, rfl⟩)⟩
  | case6 before char rest behind found size some' kept others swept inductionHypothesis =>
    intro same
    obtain ⟨here, further⟩ := nowhere_cutsName_cons.mp apart
    have edge := edgeOf here found same
    rw [swept] at inductionHypothesis
    exact inductionHypothesis further _ (.inr edge)
  | case7 before char rest missing kept others swept inductionHypothesis =>
    intro same
    obtain ⟨here, further⟩ := nowhere_cutsName_cons.mp apart
    rw [swept] at inductionHypothesis
    refine nowhere_cutsName_cons.mpr ⟨?_, inductionHypothesis further _ (.inl ⟨rfl, rfl⟩)⟩
    rcases same with ⟨-, rfl⟩ | edge
    · refine Bool.eq_false_iff.mpr fun cuts => ?_
      obtain ⟨behind, starts⟩ := Bool.and_eq_true_iff.mp cuts
      have there : startsWith word (char :: rest) = true :=
        startsWith_of_sweepFrom leads apart behind parts
          (by rw [sweepFrom, missing, swept]; exact starts)
      rw [cutsName, behind, there] at here
      exact Bool.false_ne_true here.symm
    · exact free edge

end Sweep

/-- Every occurrence of every pattern is at the edge of a name, those included that come about by
earlier removals. -/
theorem atEdge_of_mem_sweepAll {patterns : List Pattern}
    (lead : ∀ pattern ∈ patterns, ∃ more, pattern = exactly word ++ more) (written : word ≠ [])
    (parts : word.all isNamePart = true)
    (apart : nowhere (cutsName word) none content [] = true) :
    ∀ occurrence ∈ (sweepAll patterns content).2, occurrence.atEdge = true := by
  induction patterns generalizing content with
  | nil => exact fun occurrence member => absurd member List.not_mem_nil
  | cons pattern patterns inductionHypothesis =>
    obtain ⟨more, leads⟩ := lead pattern List.mem_cons_self
    intro occurrence member
    rcases List.mem_append.mp member with first | further
    · exact atEdge_of_mem_sweepFrom leads written apart first
    · exact inductionHypothesis (fun other among => lead other (List.mem_cons_of_mem _ among))
        (nowhere_sweepFrom leads parts apart none (.inl ⟨rfl, rfl⟩)) occurrence further

/-! ### Names that are cut -/

theorem exists_trimRightWhile {skip : Char → Bool} (stays : skip char = false) (text : Text) :
    ∃ more, trimRightWhile skip (char :: text) = char :: more := by
  rw [trimRightWhile, List.reverse_cons, List.dropWhile_append]
  split
  · exact ⟨[], by rw [List.dropWhile_cons_of_neg (by simp [stays])]; rfl⟩
  · exact ⟨_, List.reverse_append⟩

/-- The code of a snippet that begins with a part of a name begins with it. -/
theorem exists_snippetBody (begins : snippet.head?.any isNamePart = true) :
    ∃ first more, snippet.head? = some first ∧ isNamePart first = true ∧
      snippetBody snippet = first :: more := by
  cases snippet with
  | nil => cases begins
  | cons first text =>
    have part : isNamePart first = true := begins
    have solid := not_isBlank_of_isNamePart part
    have noSemicolon : [';'].contains first = false := not_mem_of_isNamePart (by decide) part
    obtain ⟨more, trimmed⟩ := exists_trimRightWhile solid text
    obtain ⟨left, body⟩ := @exists_trimRightWhile first (· = ';') (by simpa using noSemicolon) more
    refine ⟨first, left, rfl, part, ?_⟩
    rw [snippetBody, trim, trimWhile, trimLeftWhile, List.dropWhile_cons_of_neg (by simp [solid]),
      trimmed, body]

section Sweep

variable {pattern more : Pattern} {first : Char}

theorem sweepFrom_cons_of_other (leads : pattern = exactly (first :: word) ++ more)
    (other : char ≠ first) (before : Option Char) (text : Text) :
    sweepFrom pattern 0 before (char :: text) =
      (char :: (sweepFrom pattern 0 (some char) text).1,
        (sweepFrom pattern 0 (some char) text).2) := by
  have missing : Pattern.match? pattern ⟨before, char :: text⟩ = none := by
    rw [leads, match?_exactly, dropPrefix?, if_neg (Ne.symm other)]
    rfl
  rw [sweepFrom, missing]

theorem sweepFrom_length (pattern : Pattern) (before : Option Char) (text : Text) :
    sweepFrom pattern text.length before text = sweepFrom pattern 0 (lastChar before text) [] := by
  induction text generalizing before with
  | nil => rfl
  | cons char text inductionHypothesis => exact inductionHypothesis (some char)

/-- A snippet that is all of a text is removed wherever it begins. -/
theorem sweepFrom_whole {more : Text} (before : Option Char) :
    sweepFrom (exactly (first :: more) ++ tail) 0 before (first :: more) =
      ([], [⟨before, first :: more⟩]) := by
  have matched : (Pattern.match? (exactly (first :: more) ++ tail) ⟨before, first :: more⟩).map
      Place.rest = some [] := by
    have found := dropPrefix?_append (first :: more) []
    rw [List.append_nil] at found
    rw [match?_exactly, found]
    exact match?_tail _ []
  obtain ⟨place, found, empty⟩ := Option.map_eq_some_iff.mp matched
  rw [sweepFrom, found]
  dsimp only
  rw [empty, List.length_nil, Nat.sub_zero, List.take_length, List.length_cons,
    if_neg (Nat.succ_ne_zero _), Nat.add_sub_cancel, sweepFrom_length, sweepFrom,
    match?_nil rfl (List.cons_ne_nil _ _)]

end Sweep

/-- Behind a part of a name, the code of a snippet is removed as it is elsewhere. -/
theorem sweepAll_behind_name (begins : snippet.head?.any isNamePart = true)
    (other : snippet.head? ≠ some char) :
    sweepAll (snippetPatterns snippet) (char :: snippetBody snippet) =
      ([char], [⟨some char, snippetBody snippet⟩]) := by
  obtain ⟨first, more, head, part, body⟩ := exists_snippetBody begins
  have different : char ≠ first := by
    rintro rfl
    exact other head
  have name : leadingName snippet = first :: more.takeWhile isNamePart := by
    rw [leadingName, body, List.takeWhile_cons_of_pos part]
  have tolerant : loosely (first :: more) ++ tail ∈ snippetPatterns snippet := by
    rw [snippetPatterns, body]
    exact List.mem_cons_of_mem _ List.mem_cons_self
  obtain ⟨pieces, leads⟩ := exists_of_mem_snippetPatterns tolerant
  rw [name] at leads
  have patterns : snippetPatterns snippet =
      [exactly (first :: more) ++ tail, loosely (first :: more) ++ tail] := by
    rw [snippetPatterns, body]
    rfl
  have strict : sweepFrom (exactly (first :: more) ++ tail) 0 none (char :: first :: more) =
      ([char], [⟨some char, first :: more⟩]) := by
    rw [sweepFrom_cons_of_other rfl different, sweepFrom_whole]
  have loose : sweepFrom (loosely (first :: more) ++ tail) 0 none [char] = ([char], []) := by
    rw [sweepFrom_cons_of_other leads different, sweepFrom,
      match?_nil leads (List.cons_ne_nil _ _)]
  rw [patterns, body]
  simp only [sweepAll, strict, loose, List.append_nil]

/-- What is removed for a snippet that begins with a name: the count is that of the occurrences;
where the name stands nowhere directly behind a part of a name, every occurrence of both patterns is
at the edge of a name; and behind any part of a name but its own first character, the snippet goes
and the part of the name is left. -/
theorem removals_at_edge_of_standsApart (begins : snippet.head?.any isNamePart = true) :
    (∀ content, (deletePatterns content (snippetPatterns snippet)).2 =
        (sweepAll (snippetPatterns snippet) content).2.length ∧
      (StandsApart (leadingName snippet) content →
        ∀ occurrence ∈ (sweepAll (snippetPatterns snippet) content).2,
          occurrence.atEdge = true)) ∧
    ∀ char, isNamePart char = true → snippet.head? ≠ some char →
      deletePatterns (char :: snippetBody snippet) (snippetPatterns snippet) = ([char], 1) ∧
        ∃ occurrence ∈
          (sweepAll (snippetPatterns snippet) (char :: snippetBody snippet)).2,
          occurrence.atEdge = false := by
  constructor
  · intro content
    refine ⟨by rw [deletePatterns_eq], fun apart => ?_⟩
    obtain ⟨first, more, -, part, body⟩ := exists_snippetBody begins
    have written : leadingName snippet ≠ [] := by
      rw [leadingName, body, List.takeWhile_cons_of_pos part]
      exact List.cons_ne_nil _ _
    exact atEdge_of_mem_sweepAll (fun _ => exists_of_mem_snippetPatterns) written
      List.all_takeWhile ((nowhere_cutsName_iff written).mpr ⟨rfl, apart⟩)
  · intro char part other
    have swept := sweepAll_behind_name begins other
    refine ⟨?_, ⟨some char, snippetBody snippet⟩, by simp [swept], ?_⟩
    · rw [deletePatterns_eq, swept, if_neg (List.cons_ne_nil _ _), collapseBlankLines]
      have solid : char ≠ '\n' := by
        rintro rfl
        exact absurd part (by decide)
      simp [collapseNewlines, solid]
    · simp [Occurrence.atEdge, part]

/-- A call that is deleted as a statement. -/
def barCall : Text := "bar();".toList

/-- Behind another call, the call is removed at the edge of its name. -/
theorem removals_at_edge_behind_call :
    barCall.head?.any isNamePart = true ∧
      StandsApart (leadingName barCall) "foo(bar());\nbar();\n".toList ∧
      ∀ occurrence ∈ (sweepAll (snippetPatterns barCall) "foo(bar());\nbar();\n".toList).2,
        occurrence.atEdge = true := by
  have begins : barCall.head?.any isNamePart = true := by decide
  have apart : StandsApart (leadingName barCall) "foo(bar());\nbar();\n".toList :=
    (@nowhere_cutsName_iff _ _ none (by decide) |>.mp (by decide)).2
  exact ⟨begins, apart, ((removals_at_edge_of_standsApart begins).1 _).2 apart⟩

/-- The call is removed where its name ends a longer one, whose beginning is left. -/
theorem removal_truncates_name :
    Instruction.isStatement barCall = true ∧ barCall.head?.any isNamePart = true ∧
      deletePatterns "foobar();\n".toList (snippetPatterns barCall) = ("foo".toList, 1) ∧
      (sweepAll (snippetPatterns barCall) "foobar();\n".toList).2 =
        [⟨some 'o', "bar();\n".toList⟩] ∧
      Occurrence.atEdge ⟨some 'o', "bar();\n".toList⟩ = false := by
  decide

end GuidedMigration.Code
