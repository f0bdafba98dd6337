/-
This file says how patterns are matched and deleted in a text that is given in parts. A run over a
part in which nothing is found leaves the part as it is, and goes on behind it with the last
character of the part in front; an occurrence that takes a part as a whole takes nothing else.
-/
import GuidedMigration.Code.Deletion
import GuidedMigration.Code.Statement
import GuidedMigration.Proofs.Text.Rows

namespace GuidedMigration

namespace Text

variable {before other : Option Char} {text more : Text}

/-- The character in front of the place behind a text, `before` being the one in front of the
text. -/
def lastChar : Option Char → Text → Option Char
  | before, [] => before
  | _, char :: text => lastChar (some char) text

theorem lastChar_append (before : Option Char) (text more : Text) :
    lastChar before (text ++ more) = lastChar (lastChar before text) more := by
  induction text generalizing before with
  | nil => rfl
  | cons char text inductionHypothesis => exact inductionHypothesis _

/-- A text with characters hides what stands in front of it. -/
theorem lastChar_of_ne_nil (written : text ≠ []) (before other : Option Char) :
    lastChar before text = lastChar other text := by
  cases text with
  | nil => exact absurd rfl written
  | cons char text => rfl

theorem exists_lastChar (written : text ≠ []) (before : Option Char) :
    ∃ char ∈ text, lastChar before text = some char := by
  induction text generalizing before with
  | nil => exact absurd rfl written
  | cons char text inductionHypothesis =>
    rw [lastChar]
    cases text with
    | nil => exact ⟨char, List.mem_cons_self, rfl⟩
    | cons next text =>
      obtain ⟨last, member, same⟩ := inductionHypothesis (List.cons_ne_nil _ _) (some char)
      exact ⟨last, List.mem_cons_of_mem _ member, same⟩

/-- The code points of the blanks. -/
def blankCodes : List Nat :=
  [9, 10, 11, 12, 13, 28, 29, 30, 31, 32, 0x85, 0xA0, 0x1680, 0x2000, 0x2001, 0x2002, 0x2003,
    0x2004, 0x2005, 0x2006, 0x2007, 0x2008, 0x2009, 0x200A, 0x2028, 0x2029, 0x202F, 0x205F, 0x3000]

theorem toNat_mem_blankCodes {char : Char} (blank : isBlank char = true) :
    char.toNat ∈ blankCodes := by
  simp only [blankCodes, List.mem_cons, List.not_mem_nil, or_false]
  rw [isBlank] at blank
  split at blank <;>
    · simp only [Bool.or_eq_true, Bool.and_eq_true, decide_eq_true_eq] at blank
      omega

/-- A blank belongs to no word. -/
theorem not_isWord_of_isBlank {char : Char} (blank : isBlank char = true) :
    isWord char = false := by
  have all : blankCodes.all (fun code => !isWord (Char.ofNat code)) = true := by decide +kernel
  have apart := List.all_eq_true.mp all _ (toNat_mem_blankCodes blank)
  rwa [Char.ofNat_toNat, Bool.not_eq_true'] at apart

end Text

namespace Code

open Text

variable {before : Option Char} {text rest : Text}

/-! ### Reading the pieces of a pattern -/

namespace Place

theorem skip_eq (skip : Char → Bool) (place : Place) :
    place.skip skip = ⟨lastChar place.before (place.rest.takeWhile skip),
      place.rest.dropWhile skip⟩ := by
  obtain ⟨before, rest⟩ := place
  show skipFrom skip before rest = _
  induction rest generalizing before with
  | nil => rfl
  | cons char rest inductionHypothesis =>
    rw [skipFrom]
    cases skips : skip char with
    | true =>
      rw [if_pos rfl, inductionHypothesis, List.takeWhile_cons_of_pos skips,
        List.dropWhile_cons_of_pos skips]
      rfl
    | false =>
      rw [if_neg Bool.false_ne_true, List.takeWhile_cons_of_neg (by simp [skips]),
        List.dropWhile_cons_of_neg (by simp [skips])]
      rfl

end Place

theorem match?_exactly (word : Text) (pattern : Pattern) (before : Option Char) (text : Text) :
    Pattern.match? (exactly word ++ pattern) ⟨before, text⟩ =
      (dropPrefix? word text).bind fun rest =>
        Pattern.match? pattern ⟨lastChar before word, rest⟩ := by
  induction word generalizing before text with
  | nil => rfl
  | cons first word inductionHypothesis =>
    cases text with
    | nil => rfl
    | cons char text =>
      show (if char = first then Pattern.match? (exactly word ++ pattern) ⟨some char, text⟩
        else none) = _
      rw [dropPrefix?]
      by_cases same : char = first
      · rw [if_pos same, if_pos same.symm, inductionHypothesis, same]
        rfl
      · rw [if_neg same, if_neg (Ne.symm same)]
        rfl

/-- A text without a character that may stand at its start. -/
def dropOptional (wanted : Char) : Text → Text
  | [] => []
  | char :: text => if char = wanted then text else char :: text

/-- A text without what is deleted with the code before it: a semicolon, spaces and tabs, and a
newline, as far as they stand there. -/
def dropTail (text : Text) : Text :=
  dropOptional '\n' ((dropOptional ';' text).dropWhile isSpaceOrTab)

theorem exists_match?_optional (wanted : Char) (pattern : Pattern) (before : Option Char)
    (text : Text) : ∃ other, Pattern.match? (.optional wanted :: pattern) ⟨before, text⟩ =
      Pattern.match? pattern ⟨other, dropOptional wanted text⟩ := by
  cases text with
  | nil => exact ⟨before, rfl⟩
  | cons char text =>
    show ∃ other, (if char = wanted then Pattern.match? pattern ⟨some char, text⟩
      else Pattern.match? pattern ⟨before, char :: text⟩) = _
    rw [dropOptional]
    by_cases found : char = wanted
    · exact ⟨some char, by rw [if_pos found, if_pos found]⟩
    · exact ⟨before, by rw [if_neg found, if_neg found]⟩

theorem match?_tail (before : Option Char) (text : Text) :
    (Pattern.match? tail ⟨before, text⟩).map Place.rest = some (dropTail text) := by
  obtain ⟨other, semicolon⟩ := exists_match?_optional ';' [.margin, .optional '\n'] before text
  obtain ⟨last, newline⟩ := exists_match?_optional '\n' []
    (Place.skip isSpaceOrTab ⟨other, dropOptional ';' text⟩).before
    (Place.skip isSpaceOrTab ⟨other, dropOptional ';' text⟩).rest
  rw [tail, semicolon]
  show (Pattern.match? [.optional '\n'] (Place.skip isSpaceOrTab _)).map Place.rest = _
  rw [newline, Place.skip_eq]
  rfl

/-! ### Nowhere in a part -/

/-- Whether something is found at no place within a text that stands behind a character and in front
of a rest. -/
def nowhere (found : Place → Bool) : Option Char → Text → Text → Bool
  | _, [], _ => true
  | before, char :: text, rest =>
    !found ⟨before, char :: (text ++ rest)⟩ && nowhere found (some char) text rest

variable {found : Place → Bool}

theorem nowhere_cons {char : Char} :
    nowhere found before (char :: text) rest = true ↔
      found ⟨before, char :: (text ++ rest)⟩ = false ∧
        nowhere found (some char) text rest = true := by
  rw [nowhere, Bool.and_eq_true, Bool.not_eq_true']

theorem nowhere_mono {other : Place → Bool}
    (implies : ∀ place, found place = true → other place = true)
    (absent : nowhere other before text rest = true) : nowhere found before text rest = true := by
  induction text generalizing before with
  | nil => rfl
  | cons char text inductionHypothesis =>
    obtain ⟨here, behind⟩ := nowhere_cons.mp absent
    refine nowhere_cons.mpr ⟨?_, inductionHypothesis behind⟩
    exact Bool.eq_false_iff.mpr fun holds =>
      Bool.false_ne_true (here.symm.trans (implies _ holds))

/-- What is found only where a kind of character stands is found nowhere among others. -/
theorem nowhere_of_all (isFirst : Char → Bool)
    (first : ∀ before char rest, found ⟨before, char :: rest⟩ = true → isFirst char = true)
    (others : text.all (!isFirst ·) = true) (before : Option Char) (rest : Text) :
    nowhere found before text rest = true := by
  induction text generalizing before with
  | nil => rfl
  | cons char text inductionHypothesis =>
    rw [List.all_cons, Bool.and_eq_true, Bool.not_eq_true'] at others
    refine nowhere_cons.mpr ⟨?_, inductionHypothesis others.2 _⟩
    exact Bool.eq_false_iff.mpr fun holds =>
      Bool.false_ne_true (others.1.symm.trans (first _ _ _ holds))

/-! ### Reaching over a part -/

variable {stop : Char} {continue? : Place → Option Place}

/-- The reach goes over a part that is not continued from, unless the part holds the stop. -/
theorem reach?_append (absent : nowhere (fun place => (continue? place).isSome) before text rest) :
    reach? stop continue? before (text ++ rest) =
      if stop ∈ text then none else reach? stop continue? (lastChar before text) rest := by
  induction text generalizing before with
  | nil => simp [lastChar]
  | cons char text inductionHypothesis =>
    obtain ⟨here, behind⟩ := nowhere_cons.mp absent
    rw [List.cons_append, reach?,
      Option.isSome_eq_false_iff.mp here |> Option.isNone_iff_eq_none.mp]
    dsimp only
    by_cases stops : char = stop
    · rw [if_pos stops, if_pos (stops ▸ List.mem_cons_self)]
    · rw [if_neg stops, inductionHypothesis behind, lastChar]
      simp [Ne.symm stops]

theorem reach?_of_continue {place : Place} (continues : continue? ⟨before, text⟩ = some place) :
    reach? stop continue? before text = some place := by
  cases text with
  | nil => exact continues
  | cons char text => rw [reach?, continues]

/-! ### Deleting from a part -/

variable {pattern : Pattern}

/-- A part in which nothing is found stays. -/
theorem deleteFrom_append
    (absent : nowhere (fun place => (Pattern.match? pattern place).isSome) before text rest) :
    deleteFrom pattern 0 before (text ++ rest) =
      (text ++ (deleteFrom pattern 0 (lastChar before text) rest).1,
        (deleteFrom pattern 0 (lastChar before text) rest).2) := by
  induction text generalizing before with
  | nil => rfl
  | cons char text inductionHypothesis =>
    obtain ⟨here, behind⟩ := nowhere_cons.mp absent
    rw [List.cons_append, deleteFrom,
      Option.isSome_eq_false_iff.mp here |> Option.isNone_iff_eq_none.mp]
    dsimp only
    rw [inductionHypothesis behind]
    rfl

/-- The rest of an occurrence goes. -/
theorem deleteFrom_skip (pattern : Pattern) (skip : Nat) (before : Option Char)
    (text rest : Text) :
    deleteFrom pattern (text.length + skip) before (text ++ rest) =
      deleteFrom pattern skip (lastChar before text) rest := by
  induction text generalizing before with
  | nil => rw [List.length_nil, Nat.zero_add]; rfl
  | cons char text inductionHypothesis =>
    rw [List.length_cons, Nat.add_right_comm, List.cons_append, deleteFrom, inductionHypothesis]
    rfl

/-- An occurrence is counted, and the rest of it goes. -/
theorem deleteFrom_occurrence (written : text ≠ [])
    (matched : (Pattern.match? pattern ⟨before, text ++ rest⟩).map Place.rest = some rest) :
    deleteFrom pattern 0 before (text ++ rest) =
      ((deleteFrom pattern text.length before (text ++ rest)).1,
        (deleteFrom pattern text.length before (text ++ rest)).2 + 1) := by
  obtain ⟨char, text, rfl⟩ := List.exists_cons_of_ne_nil written
  obtain ⟨place, found, behind⟩ := Option.map_eq_some_iff.mp matched
  have size : (char :: (text ++ rest)).length - place.rest.length = text.length + 1 := by
    rw [behind, List.length_cons, List.length_append]
    omega
  rw [List.cons_append, deleteFrom, ← List.cons_append, found]
  dsimp only
  rw [List.cons_append, size, if_neg (Nat.succ_ne_zero _)]
  rfl

end Code

end GuidedMigration
