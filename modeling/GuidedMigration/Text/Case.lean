/-
This file maps texts to small and to capital letters as Unicode 14 does, a capital sigma at the end
of a word to the final form of the small letter included. For comparing a text with ASCII words in
disregard of case it also folds the few other characters that stand for the same letter: the long s,
the dotless and the dotted i, and the kelvin sign.
-/
import GuidedMigration.Text.Character
import GuidedMigration.Text.CaseTable

namespace GuidedMigration.Text

/-- The code point that the first fitting run maps a code point to. -/
def mapRuns (runs : List (Nat × Nat × Nat × Int)) (code : Nat) : Nat :=
  match runs.find? fun (first, last, step, _) =>
      first ≤ code && code ≤ last && (code - first) % step = 0 with
  | some (_, _, _, shift) => (code + shift).toNat
  | none => code

/-- Whether a character has case. -/
def isCased (char : Char) : Bool :=
  if char.toNat < 128 then isAsciiLetter char else inRanges casedRanges char.toNat

/-- Whether case rules skip a character. -/
def isCaseIgnorable (char : Char) : Bool :=
  if char.toNat < 128 then char = '\'' || char = '.' || char = ':' || char = '^' || char = '\x60'
  else inRanges caseIgnorableRanges char.toNat

/-- Whether the nearest character that case rules do not skip has case. -/
def meetsCased (text : Text) : Bool :=
  ((text.dropWhile isCaseIgnorable).head?).any isCased

/-- The capital sigma. -/
def capitalSigma : Char := Char.ofNat 0x3A3

/-- The small form of one character, which may be two characters. -/
def lowerChar (char : Char) : Text :=
  if char.toNat < 128 then [asciiLower char]
  else if char.toNat = 0x130 then ['i', Char.ofNat 0x307]
  else [Char.ofNat (mapRuns lowerRuns char.toNat)]

/-- The small form of a text whose characters before it, last first, are `before`. -/
def lowerAfter (before : Text) : Text → Text
  | [] => []
  | char :: text =>
    (if char = capitalSigma then
      [Char.ofNat (if meetsCased before && !meetsCased text then 0x3C2 else 0x3C3)]
    else lowerChar char) ++ lowerAfter (char :: before) text

/-- A text in small letters. -/
def lower (text : Text) : Text :=
  if text.all (·.toNat < 128) then text.map asciiLower else lowerAfter [] text

/-- The capital form of one character, which may be several characters. -/
def upperChar (char : Char) : Text :=
  if char.toNat < 128 then [asciiUpper char]
  else match upperExpansions.find? (·.1 = char.toNat) with
    | some (_, codes) => codes.map Char.ofNat
    | none => [Char.ofNat (mapRuns upperRuns char.toNat)]

/-- A text in capital letters. -/
def upper (text : Text) : Text := text.flatMap upperChar

/-- The small ASCII letter that a character stands for in disregard of case, if there is one. -/
def foldChar (char : Char) : Char :=
  if char.toNat < 128 then asciiLower char
  else if char.toNat = 0x17F then 's'
  else if char.toNat = 0x130 || char.toNat = 0x131 then 'i'
  else if char.toNat = 0x212A then 'k'
  else char

/-- A text with every character folded. -/
def fold (text : Text) : Text := text.map foldChar

/-- What follows `start`, a text of small ASCII letters, in disregard of case. -/
def dropPrefixFolded? : Text → Text → Option Text
  | [], text => some text
  | _ :: _, [] => none
  | first :: start, char :: text =>
    if first = foldChar char then dropPrefixFolded? start text else none

end GuidedMigration.Text
