/-
This file decides which marks of emphasis and of struck-out text belong together. A run of equal
marks can open, close, or do both, by the characters around it. Going from left to right, every mark
that can close is matched with the nearest mark before it that can open and is not matched yet;
marks between the two can be matched no more.
-/
import GuidedMigration.Text.Character

namespace GuidedMigration.Markdown

open Text

/-- A mark: its character, the length of its run where that counts, the place of its piece among the
pieces of the text, whether it can open and close, and the mark that closes it. -/
structure Delimiter where
  mark : Char
  size : Nat
  piece : Nat
  opens : Bool
  closes : Bool
  partner : Option Nat

namespace Delimiter

/-- Whether the characters around a run count as blank. -/
def isSpacing (char : Char) : Bool :=
  let code := char.toNat
  (9 ≤ code && code ≤ 13) || code = 0x20 || code = 0xA0 || code = 0x1680 ||
    (0x2000 ≤ code && code ≤ 0x200A) || code = 0x202F || code = 0x205F || code = 0x3000

/-- Whether a run between two characters can open and whether it can close. Marks that do not split
words do so only at the edges of words. -/
def roles (before after : Char) (splitsWords : Bool) : Bool × Bool :=
  let leftFlanking := !isSpacing after && (!isSymbol after || isSpacing before || isSymbol before)
  let rightFlanking := !isSpacing before && (!isSymbol before || isSpacing after || isSymbol after)
  if splitsWords then (leftFlanking, rightFlanking)
  else (leftFlanking && (!rightFlanking || isSymbol before),
    rightFlanking && (!leftFlanking || isSymbol after))

/-- Whether two marks cannot be matched because of the lengths of their runs: where one of them can
both open and close, the sum is a multiple of three and not both are. -/
def isOdd (opener closer : Delimiter) : Bool :=
  (opener.closes || closer.opens) && (opener.size + closer.size) % 3 = 0 &&
    (opener.size % 3 != 0 || closer.size % 3 != 0)

/-- What matching knows: the marks, how many marks before each can be skipped in a search, the first
mark of the current run, the piece of the mark before, and, by kind of closing mark, the place
before which no opening mark is left. -/
structure Matching where
  delimiters : Array Delimiter
  jumps : Array Nat
  header : Nat
  lastPiece : Option Nat
  bottoms : List ((Char × Bool × Nat) × Int)

/-- The mark at a place. -/
def Matching.at? (matching : Matching) (place : Nat) : Option Delimiter :=
  matching.delimiters[place]?

/-- How many marks before a place can be skipped. -/
def Matching.jump (matching : Matching) (place : Nat) : Nat := matching.jumps[place]?.getD 0

/-- The place of the opening mark for a closing mark, from a place on downwards. -/
def Matching.opener? (matching : Matching) (closer : Delimiter) (bottom : Int) :
    Nat → Int → Option Nat
  | 0, _ => none
  | fuel + 1, place =>
    if place ≤ bottom then none
    else match matching.at? place.toNat with
      | none => none
      | some opener =>
        if opener.mark = closer.mark && opener.opens && opener.partner.isNone &&
            !isOdd opener closer then some place.toNat
        else matching.opener? closer bottom fuel (place - (matching.jump place.toNat + 1))

/-- Two marks matched with each other. -/
def Matching.join (matching : Matching) (opener closer : Nat) : Matching :=
  let before := (matching.at? (opener - 1)).filter fun _ => 0 < opener
  let skipped := if before.any (!·.opens) then matching.jump (opener - 1) + 1 else 0
  { matching with
    delimiters := (matching.delimiters.modify closer ({ · with opens := false })).modify opener
      ({ · with closes := false, partner := some closer })
    jumps := (matching.jumps.setIfInBounds closer (closer - opener + skipped)).setIfInBounds opener
      skipped
    lastPiece := none }

/-- Matching after the mark at a place. -/
def Matching.step (matching : Matching) (place : Nat) : Matching :=
  match matching.at? place with
  | none => matching
  | some closer =>
    let follows := (matching.at? matching.header).any (·.mark = closer.mark) &&
      matching.lastPiece.any (· + 1 = closer.piece)
    let matching := { matching with
      header := if follows then matching.header else place
      lastPiece := some closer.piece
      jumps := matching.jumps.push 0 }
    if !closer.closes then matching
    else
      let kind := (closer.mark, closer.opens, closer.size % 3)
      let bottom := (matching.bottoms.lookup kind).getD (-1)
      let start : Int := (matching.header : Int) - matching.jump matching.header - 1
      match matching.opener? closer bottom (place + 1) start with
      | some opener => matching.join opener place
      | none =>
        if start = -1 then matching
        else { matching with bottoms := (kind, start) :: matching.bottoms }

/-- The pieces of the marks that are matched. -/
def matchedPieces (delimiters : Array Delimiter) : List Nat :=
  let matching := (List.range delimiters.size).foldl Matching.step ⟨delimiters, #[], 0, none, []⟩
  matching.delimiters.toList.flatMap fun opener =>
    match opener.partner.bind (matching.delimiters[·]?) with
    | some closer => [opener.piece, closer.piece]
    | none => []

end Delimiter

end GuidedMigration.Markdown
