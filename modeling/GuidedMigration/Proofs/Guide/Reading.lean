/-
This file says what it is to find the blocks of code of a well fenced text and its headings: every
region that is closed is one of the blocks, no block of fenced code reaches over a line outside of
all regions, no two blocks start at the same line, and behind a heading no region is open. What is
found in lines one after the other is found in all of them.
-/
import GuidedMigration.Proofs.Markdown.Shown

namespace GuidedMigration.Guide

open Text Markdown

variable {lines : List Text} {line : Text} {count first middle next index start : Nat}
  {leaves older newer : List Leaf} {opening : Fence} {info content : Text}

/-! ### Languages -/

theorem lower_eq_nil {text : Text} : lower text = [] ↔ text = [] := by
  cases text with
  | nil => exact ⟨fun _ => rfl, fun _ => rfl⟩
  | cons char text =>
    refine ⟨fun none' => ?_, fun none' => by cases none'⟩
    rw [lower] at none'
    split at none'
    · cases none'
    · rw [lowerAfter] at none'
      have first := (List.append_eq_nil_iff.mp none').1
      split at first
      · cases first
      · rw [lowerChar] at first
        split at first
        · cases first
        · split at first <;> cases first

theorem takeWhile_congr {holds other : Char → Bool} {text : Text}
    (same : ∀ char ∈ text, holds char = other char) :
    text.takeWhile holds = text.takeWhile other := by
  induction text with
  | nil => rfl
  | cons char text inductionHypothesis =>
    rw [List.takeWhile_cons, List.takeWhile_cons, same char List.mem_cons_self,
      inductionHypothesis fun next member => same next (List.mem_cons_of_mem char member)]

theorem takeWhile_append_of_not {holds : Char → Bool} {behind : Text}
    (none' : ∀ char ∈ behind, holds char = false) (text : Text) :
    (text ++ behind).takeWhile holds = text.takeWhile holds := by
  induction text with
  | nil =>
    cases behind with
    | nil => rfl
    | cons char behind =>
      rw [List.nil_append, List.takeWhile_cons, none' char List.mem_cons_self]
      rfl
  | cons char text inductionHypothesis =>
    rw [List.cons_append, List.takeWhile_cons, List.takeWhile_cons, inductionHypothesis]

/-- The first word of a text ends before the blanks at its end. -/
theorem takeWhile_trim {holds : Char → Bool}
    (solid : ∀ char, isBlank char = true → holds char = false) (text : Text) :
    (trim text).takeWhile holds = (trimLeft text).takeWhile holds := by
  have parts : trimLeft text =
      trim text ++ ((trimLeft text).reverse.takeWhile isBlank).reverse := by
    rw [trim, trimWhile, trimRightWhile, ← List.reverse_append, ← trimLeft,
      List.takeWhile_append_dropWhile, List.reverse_reverse]
  rw [parts, takeWhile_append_of_not]
  intro char member
  exact solid char (List.all_eq_true.mp List.all_takeWhile char (List.mem_reverse.mp member))

/-- Both readings of the words behind a fence name the same language. -/
theorem language_eq (said : ∀ char ∈ info, char ≠ '\x60' ∧ (isBlank char = true → char = ' ')) :
    (if (Document.languageOf info).isEmpty then "text".toList else Document.languageOf info) =
      languageOf info := by
  have word : (trim info).takeWhile (· != ' ') =
      (trimLeft info).takeWhile fun char => !isBlank char && char != '\x60' := by
    rw [← takeWhile_trim (fun char blank => by simp [blank])]
    refine takeWhile_congr fun char member => ?_
    obtain ⟨noTick, noBlank⟩ := said char (mem_of_mem_trim member)
    cases blank : isBlank char with
    | true => simp [noBlank blank]
    | false =>
      have other : char ≠ ' ' := by
        rintro rfl
        exact absurd blank (by decide)
      rw [bne_iff_ne.mpr other, bne_iff_ne.mpr noTick]
      rfl
  rw [Document.languageOf, word, languageOf]
  simp only [List.isEmpty_iff, lower_eq_nil]

/-! ### What is found -/

/-- What blocks are found in lines from one index up to another, where so many lines are shown. -/
structure Reads (lines : List Text) (count first next : Nat) (leaves : List Leaf) : Prop where
  reaches : first ≤ next
  clear : openAt lines next = none ∨ count ≤ next
  headings : ∀ heading ∈ Document.headings leaves, openAt lines heading.last = none
  /-- A block of fenced code takes the line of its fence, one line for each newline of its content,
  and the line behind these. None of them is free. -/
  fenced : ∀ info content start, .code (some info) content start ∈ leaves →
    ∀ index, start ≤ index → index ≤ start + content.count '\n' + 1 → ¬ IsFree lines index
  regions : ∀ index fence, first ≤ index → index < next → Closes lines index fence →
    fence.block 0 ∈ Document.codeBlocks leaves
  among : ∀ block ∈ Document.codeBlocks leaves,
    ∃ start : Nat, block.line = some (start : Int) ∧ first ≤ start ∧ start < next
  apart : (Document.codeBlocks leaves).Pairwise (·.line ≠ ·.line)

namespace Reads

/-- Nothing is found where no line is read. -/
theorem refl (clear : openAt lines first = none ∨ count ≤ first) :
    Reads lines count first first [] where
  reaches := Nat.le_refl first
  clear := clear
  headings := by simp [Document.headings]
  fenced := by simp
  regions index fence from' before := absurd before (by omega)
  among := by simp [Document.codeBlocks]
  apart := .nil

/-- Lines outside of all regions that begin none may hold paragraphs and headings. -/
theorem quiet (reaches : first ≤ next)
    (outside : ∀ index, first ≤ index → index ≤ next → openAt lines index = none)
    (noCode : Document.codeBlocks leaves = [])
    (headings : ∀ heading ∈ Document.headings leaves, openAt lines heading.last = none) :
    Reads lines count first next leaves where
  reaches := reaches
  clear := .inl (outside next reaches (Nat.le_refl next))
  headings := headings
  fenced info content start member := by
    have block : _ ∈ Document.codeBlocks leaves := List.mem_filterMap.mpr ⟨_, member, rfl⟩
    rw [noCode] at block
    cases block
  regions index fence from' before closes :=
    absurd closes (not_closes (outside index from' (Nat.le_of_lt before)))
  among := by simp [noCode]
  apart := by simp [noCode]

theorem skip (reaches : first ≤ next)
    (outside : ∀ index, first ≤ index → index ≤ next → openAt lines index = none) :
    Reads lines count first next [] :=
  quiet reaches outside rfl (by simp [Document.headings])

/-- Such lines may hold a block of indented code as well. -/
theorem indented (reaches : first < next)
    (outside : ∀ index, first ≤ index → index ≤ next → openAt lines index = none) :
    Reads lines count first next [.code none content first] where
  reaches := Nat.le_of_lt reaches
  clear := .inl (outside next (Nat.le_of_lt reaches) (Nat.le_refl next))
  headings := by simp [Document.headings]
  fenced := by simp
  regions index fence from' before closes :=
    absurd closes (not_closes (outside index from' (Nat.le_of_lt before)))
  among block member := by
    obtain rfl := List.mem_singleton.mp member
    exact ⟨first, rfl, Nat.le_refl first, reaches⟩
  apart := List.pairwise_singleton _ _

/-- A block of fenced code that is a region: closed by the line before the next one, or open up to
the last line shown. -/
theorem region {last : Nat} (region : IsRegion lines opening last)
    (short : content.count '\n' ≤ last - (opening.start + 1))
    (ends : (next = last + 1 ∧ Closes lines last (opening.upTo lines last) ∧
        Document.codeBlocks [.code (some info) content opening.start] =
          [(opening.upTo lines last).block 0]) ∨
      (next = last ∧ count ≤ last)) :
    Reads lines count opening.start next [.code (some info) content opening.start] where
  reaches := by
    have := region.reaches
    omega
  clear := by
    rcases ends with ⟨rfl, closes, -⟩ | ⟨rfl, past⟩
    · exact .inl (openAt_succ_of_closes closes)
    · exact .inr past
  headings := by simp [Document.headings]
  fenced info' content' start member index from' within free := by
    simp only [List.mem_singleton, Leaf.code.injEq, Option.some.injEq] at member
    obtain ⟨-, rfl, rfl⟩ := member
    have reaches := region.reaches
    rcases Nat.lt_or_eq_of_le from' with behind | rfl
    · have opened := region.opened index behind (by omega)
      rw [free.1] at opened
      cases opened
    · exact not_free_of_begins region.begins free
  regions index fence from' before closes := by
    obtain ⟨opened, line, found, closed⟩ := closes
    have behind : opening.start < index := by
      rcases Nat.lt_or_eq_of_le from' with behind | rfl
      · exact behind
      · rw [region.begins.1] at opened
        cases opened
    have within : index ≤ last := by omega
    have same := Option.some.inj (opened.symm.trans (region.opened index behind within))
    subst same
    rcases Nat.lt_or_eq_of_le within with earlier | rfl
    · exact absurd (closed.symm.trans (region.isClosedBy_eq_false behind earlier found))
        (by decide)
    · obtain ⟨-, -, block⟩ := ends.resolve_right (by omega)
      rw [block]
      exact List.mem_singleton_self _
  among block member := by
    obtain rfl := List.mem_singleton.mp member
    have reaches := region.reaches
    exact ⟨opening.start, rfl, Nat.le_refl _, by omega⟩
  apart := List.pairwise_singleton _ _

/-- What is found in lines one after the other. -/
theorem append (old : Reads lines count first middle older)
    (new : Reads lines count middle next newer) :
    Reads lines count first next (newer ++ older) where
  reaches := Nat.le_trans old.reaches new.reaches
  clear := new.clear
  headings heading member := by
    rw [Document.headings, List.filterMap_append, List.mem_append] at member
    exact member.elim (new.headings heading) (old.headings heading)
  fenced info content start member :=
    (List.mem_append.mp member).elim (new.fenced info content start) (old.fenced info content start)
  regions index fence from' before closes := by
    rw [Document.codeBlocks, List.filterMap_append, List.mem_append]
    rcases Nat.lt_or_ge index middle with earlier | later
    · exact .inr (old.regions index fence from' earlier closes)
    · exact .inl (new.regions index fence later before closes)
  among block member := by
    rw [Document.codeBlocks, List.filterMap_append, List.mem_append] at member
    have newReaches := new.reaches
    have oldReaches := old.reaches
    rcases member with late | early
    · obtain ⟨start, line, from', before⟩ := new.among block late
      exact ⟨start, line, by omega, before⟩
    · obtain ⟨start, line, from', before⟩ := old.among block early
      exact ⟨start, line, from', by omega⟩
  apart := by
    rw [Document.codeBlocks, List.filterMap_append]
    refine List.pairwise_append.mpr ⟨new.apart, old.apart, fun late member early member' same => ?_⟩
    obtain ⟨start, line, from', -⟩ := new.among late member
    obtain ⟨start', line', -, before⟩ := old.among early member'
    rw [line, line', Option.some.injEq] at same
    omega

end Reads

end GuidedMigration.Guide
