/-
This file fixes what a text is and the operations on texts that know nothing of what their
characters mean: finding, counting and replacing a part, cutting at a separator and joining again,
and scanning a text from the left for pieces that a recogniser accepts.

A text is the list of its characters, so that every statement about texts is a statement about
lists. The scan is the one way in which this library looks for the occurrences of a shape: it takes
the leftmost occurrence, continues behind it, and keeps every other character as it is.
-/

namespace GuidedMigration

/-- A text is the list of its characters. -/
abbrev Text := List Char

namespace Text

/-! ### Parts of a text -/

/-- What follows `start` in a text that begins with it. -/
def dropPrefix? : Text → Text → Option Text
  | [], text => some text
  | _ :: _, [] => none
  | first :: start, char :: text => if first = char then dropPrefix? start text else none

/-- Whether a text begins with `start`. -/
def startsWith (start text : Text) : Bool := (dropPrefix? start text).isSome

/-- Whether a text ends with `final`. -/
def endsWith (final text : Text) : Bool := startsWith final.reverse text.reverse

/-- Whether a text ends with one of `finals`. -/
def endsWithAny (finals : List Text) (text : Text) : Bool := finals.any (endsWith · text)

/-- Whether `part` occurs somewhere in a text. -/
def occursIn (part : Text) : Text → Bool
  | [] => part.isEmpty
  | char :: text => startsWith part (char :: text) || occursIn part text

/-- The text before and the text behind the first occurrence of `mark`. -/
def splitFirst? (mark : Text) : Text → Option (Text × Text)
  | [] => if mark.isEmpty then some ([], []) else none
  | char :: text =>
    match dropPrefix? mark (char :: text) with
    | some rest => some ([], rest)
    | none => (splitFirst? mark text).map fun (before, rest) => (char :: before, rest)

/-- A text without the characters at its start that satisfy `skip`. -/
def trimLeftWhile (skip : Char → Bool) (text : Text) : Text := text.dropWhile skip

/-- A text without the characters at its end that satisfy `skip`. -/
def trimRightWhile (skip : Char → Bool) (text : Text) : Text :=
  (text.reverse.dropWhile skip).reverse

/-- A text without the characters at either end that satisfy `skip`. -/
def trimWhile (skip : Char → Bool) (text : Text) : Text :=
  trimRightWhile skip (trimLeftWhile skip text)

/-! ### Cutting and joining -/

/-- The parts of a text between the occurrences of `mark`; there is always at least one. -/
def splitOn (mark : Char) : Text → List Text
  | [] => [[]]
  | char :: text =>
    if char = mark then [] :: splitOn mark text
    else match splitOn mark text with
      | [] => [[char]]
      | part :: parts => (char :: part) :: parts

/-- The parts joined to one text, with `mark` between any two. -/
def joinWith (mark : Text) : List Text → Text
  | [] => []
  | [part] => part
  | part :: next :: parts => part ++ mark ++ joinWith mark (next :: parts)

/-- The parts joined to one text with a newline between any two. -/
def joinLines (parts : List Text) : Text := joinWith ['\n'] parts

/-! ### Scanning -/

/-- What a scan finds: a character that belongs to no occurrence, or an occurrence. -/
inductive Piece (Found : Type) where
  | plain (char : Char)
  | found (occurrence : Found)

/-- A recogniser looks at the character before a position and the text from there on, and gives
an occurrence that starts there together with its length. -/
abbrev Recogniser (Found : Type) := Option Char → Text → Option (Found × Nat)

/-- The scan behind `scan`: `skip` characters still belong to the last occurrence, and `before` is
the character in front of the text. -/
def scanFrom {Found : Type} (recognise : Recogniser Found) :
    Nat → Option Char → Text → List (Piece Found)
  | _, _, [] => []
  | skip + 1, _, char :: text => scanFrom recognise skip (some char) text
  | 0, before, char :: text =>
    match recognise before (char :: text) with
    | some (occurrence, length) =>
      .found occurrence :: scanFrom recognise (length - 1) (some char) text
    | none => .plain char :: scanFrom recognise 0 (some char) text

/-- A text cut, from the left, into the occurrences of a shape and the characters between them. -/
def scan {Found : Type} (recognise : Recogniser Found) (text : Text) : List (Piece Found) :=
  scanFrom recognise 0 none text

/-- The occurrences that a scan finds, in order. -/
def findAll {Found : Type} (recognise : Recogniser Found) (text : Text) : List Found :=
  (scan recognise text).filterMap fun
    | .plain _ => none
    | .found occurrence => some occurrence

/-- A text with every occurrence replaced by what `render` makes of it. -/
def replaceFound {Found : Type} (recognise : Recogniser Found) (render : Found → Text)
    (text : Text) : Text :=
  (scan recognise text).flatMap fun
    | .plain char => [char]
    | .found occurrence => render occurrence

/-- The first occurrence in a text. -/
def findFirst? {Found : Type} (recognise : Recogniser Found) (text : Text) : Option Found :=
  (findAll recognise text).head?

/-- Recognises `part` itself. -/
def literal (part : Text) : Recogniser Unit := fun _ text =>
  if !part.isEmpty && startsWith part text then some ((), part.length) else none

/-- How often `part` occurs in a text, occurrences not overlapping. -/
def countOf (part text : Text) : Nat := (findAll (literal part) text).length

/-- A text with every occurrence of `part` replaced. -/
def replace (part replacement text : Text) : Text :=
  replaceFound (literal part) (fun _ => replacement) text

/-! ### Order -/

/-- The order of texts by the code points of their characters. -/
def le : Text → Text → Bool
  | [], _ => true
  | _ :: _, [] => false
  | left :: lefts, right :: rights =>
    if left = right then le lefts rights else left.val < right.val

/-- Texts in order, each once. -/
def sortedUnique (texts : List Text) : List Text :=
  (texts.eraseDups).mergeSort le

/-! ### Numbers as text -/

/-- The decimal digits of a natural number. -/
def ofNat (number : Nat) : Text := Nat.toDigits 10 number

/-- The decimal digits of an integer, after a minus sign if it is negative. -/
def ofInt : Int → Text
  | .ofNat number => ofNat number
  | .negSucc number => '-' :: ofNat (number + 1)

/-- A text made at least `width` characters long by spaces at its end. -/
def padRight (width : Nat) (text : Text) : Text :=
  text ++ List.replicate (width - text.length) ' '

/-- A text made at least `width` characters long by `fill` at its start. -/
def padLeft (width : Nat) (fill : Char) (text : Text) : Text :=
  List.replicate (width - text.length) fill ++ text

end Text

end GuidedMigration
