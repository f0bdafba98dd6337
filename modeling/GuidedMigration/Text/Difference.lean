/-
This file counts how two texts differ by lines. Lines are matched in blocks: the longest block of
lines common to both texts is kept, the earliest one if several are as long, and the lines before it
and behind it are matched in the same way. In a text of two hundred lines or more, a line that makes
up more than a hundredth of it starts no block; it only extends blocks that other lines have found.
-/
import GuidedMigration.Text.Lines

namespace GuidedMigration.Text

/-- How two texts differ: the lines added, the lines deleted and the lines kept. -/
structure Difference where
  added : Nat
  deleted : Nat
  unchanged : Nat
  deriving DecidableEq

namespace Difference

/-- A block of lines common to both texts: where it starts in each and how long it is. -/
structure Match where
  old : Nat
  new : Nat
  size : Nat

/-- The lines of the new text that may start a block: all of them in a short text. -/
def isCommon (new : List Text) (line : Text) : Bool :=
  200 ≤ new.length && new.length / 100 + 1 < (new.filter (· = line)).length

/-- For one line of the old text, the lengths of the blocks that end with it, by the place in the
new text where they end; `previous` holds them for the line before. -/
def endingHere (line : Text) (previous : List Nat) (new : List (Text × Bool)) : List Nat :=
  (new.zip (0 :: previous)).map fun ((other, starts), size) =>
    if starts && other = line then size + 1 else 0

/-- The best block so far after one more old line; places count from the end of the blocks. -/
def better (old : Nat) (best : Match) (sizes : List Nat) : Match :=
  ((sizes.zip (List.range sizes.length)).foldl (fun best (size, new) =>
    if best.size < size then ⟨old + 1 - size, new + 1 - size, size⟩ else best) best)

/-- The longest block whose lines may all start blocks, in texts given from a common offset. -/
def longest (old : List Text) (new : List (Text × Bool)) : Match :=
  let start : Match × List Nat × Nat := (⟨0, 0, 0⟩, List.replicate new.length 0, 0)
  let walk := old.foldl (fun (best, previous, place) line =>
    let sizes := endingHere line previous new
    (better place best sizes, sizes, place + 1)) start
  walk.1

/-- How many lines, going along both lists, are the same. -/
def run : List Text → List Text → Nat
  | left :: lefts, right :: rights => if left = right then run lefts rights + 1 else 0
  | _, _ => 0

/-- The longest block, extended by equal lines before it and behind it. -/
def longestExtended (old : List Text) (new : List (Text × Bool)) : Match :=
  let found := longest old new
  let newLines := new.map (·.1)
  let before := run (old.take found.old).reverse (newLines.take found.new).reverse
  let behind := run (old.drop (found.old + found.size)) (newLines.drop (found.new + found.size))
  ⟨found.old - before, found.new - before, before + found.size + behind⟩

/-- How many lines are matched; `fuel` is at least the number of old lines. -/
def matched : Nat → List Text → List (Text × Bool) → Nat
  | 0, _, _ => 0
  | fuel + 1, old, new =>
    if old.isEmpty || new.isEmpty then 0
    else
      let found := longestExtended old new
      if found.size = 0 then 0
      else found.size + matched fuel (old.take found.old) (new.take found.new) +
        matched fuel (old.drop (found.old + found.size)) (new.drop (found.new + found.size))

/-- How the lines of two texts differ. -/
def ofTexts (old new : Text) : Difference :=
  let oldLines := lines old
  let newLines := lines new
  let unchanged := matched (oldLines.length + 1) oldLines
    (newLines.map fun line => (line, !isCommon newLines line))
  ⟨newLines.length - unchanged, oldLines.length - unchanged, unchanged⟩

end Difference

/-- A change as a short label: the numbers of added and of deleted lines. -/
def changeLabel (old new : Text) : Text :=
  if old = new then "unchanged".toList
  else
    let difference := Difference.ofTexts old new
    ['+'] ++ ofNat difference.added ++ [' ', '-'] ++ ofNat difference.deleted

end GuidedMigration.Text
