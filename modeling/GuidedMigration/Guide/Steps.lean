/-
This file finds the steps among the lines of a guide. A line that starts with a number and a point
is a step, and so is a bullet that holds a verb of action. Lines inside a fenced region are no
steps; the first region that closes behind a step and before the next one is that step's snippet.
-/
import GuidedMigration.Guide.Basic
import GuidedMigration.Number.Numeral
import GuidedMigration.Text.Case
import GuidedMigration.Text.Lines

namespace GuidedMigration.Guide

open Text

/-! ### Verbs of action -/

/-- The starts of words that tell to do something, whatever their endings. -/
def verbStems : List Text :=
  ["creat", "updat", "modif", "remov", "delet", "configur", "install"].map String.toList

/-- The words that tell to do something. -/
def verbs : List Text :=
  ["copy", "copies", "copied", "copying", "add", "adds", "added", "adding", "setup"].map
    String.toList

/-- Whether a word, given with what follows it, tells to do something; `set up` may be two words
with one blank between them. -/
def isVerb (word behind : Text) : Bool :=
  let folded := fold word
  verbs.contains folded || verbStems.any (startsWith · folded) ||
    (folded = ['s', 'e', 't'] && match behind with
      | blank :: rest => isBlank blank && fold (rest.takeWhile isWord) = ['u', 'p']
      | [] => false)

/-- Recognises a whole word that tells to do something. -/
def verb : Recogniser Unit := fun before text =>
  let word := text.takeWhile isWord
  if !before.any isWord && !word.isEmpty && isVerb word (text.drop word.length) then
    some ((), word.length)
  else none

/-- Whether a text holds a verb of action. -/
def hasVerb (text : Text) : Bool := (findFirst? verb text).isSome

/-! ### Lines -/

/-- What a numbered line says: the digits of its number and its text. -/
def numbered? (line : Text) : Option (Text × Text) :=
  let line := trimLeft line
  let digits := line.takeWhile isDigit
  match line.drop digits.length with
  | '.' :: rest => if digits.isEmpty || rest.isEmpty then none else some (digits, trim rest)
  | _ => none

/-- The text of a bullet. -/
def bullet? (line : Text) : Option Text :=
  match trimLeft line with
  | mark :: rest =>
    if (mark = '-' || mark = '*') && rest.head?.any isBlank && !isBlankText rest then
      some (trimLeft rest)
    else none
  | [] => none

/-- An open fenced region: its mark, its indentation, its language, the index of its first line, and
the lines inside so far, last first. -/
structure Fence where
  mark : Char
  size : Nat
  indent : Nat
  language : Text
  start : Nat
  body : List Text

/-- The region that a line opens: at most twelve spaces, three or more of the same mark, and the
first word behind them as the language. -/
def opens? (index : Nat) (line : Text) : Option Fence :=
  let indent := (line.takeWhile (· = ' ')).length
  let rest := line.drop indent
  match rest with
  | mark :: _ =>
    let size := (rest.takeWhile (· = mark)).length
    if (mark = '\x60' || mark = '~') && indent ≤ 12 && 3 ≤ size then
      let language := (trimLeft (rest.drop size)).takeWhile fun char =>
        !isBlank char && char != '\x60'
      some ⟨mark, size, indent, if language.isEmpty then "text".toList else lower language, index,
        []⟩
    else none
  | [] => none

/-- Whether a line closes a region: it is made of the region's mark alone, at least as often. -/
def Fence.isClosedBy (fence : Fence) (line : Text) : Bool :=
  let body := trim line
  fence.size ≤ body.length && body.all (· = fence.mark)

/-- A line of a region without the region's indentation, as far as it has it. -/
def Fence.cut (fence : Fence) (line : Text) : Text :=
  line.drop (min fence.indent (line.takeWhile (· = ' ')).length)

/-- A closed region as a block of code; `offset` is the line of the guide at index zero. -/
def Fence.block (fence : Fence) (offset : Int) : CodeBlock :=
  ⟨fence.language, fence.body.reverse.flatMap fun line => fence.cut line ++ ['\n'],
    some (offset + fence.start)⟩

/-- The steps, last first, with a block attached to the last one if that has none yet. -/
def attach (block : CodeBlock) : List Step → List Step
  | [] => []
  | step :: rest =>
    (if step.snippet.isNone then { step with snippet := some block } else step) :: rest

/-- The step that a line is, if it is one. -/
def stepOf? (offset : Int) (index : Nat) (line : Text) : Except LongInteger (Option Step) :=
  match numbered? line with
  | some (digits, text) => do
    LongInteger.check digits.length
    .ok (some ⟨some (numberOf digits), text, none, some (offset + index)⟩)
  | none => match bullet? line with
    | some text =>
      .ok (if hasVerb text then some ⟨none, trim text, none, some (offset + index)⟩ else none)
    | none => .ok none

/-- The steps among the lines from an index on; `fence` is the open region and `done` are the steps
before, last first. -/
def stepsFrom (offset : Int) :
    Nat → Option Fence → List Step → List Text → Except LongInteger (List Step)
  | _, _, done, [] => .ok done.reverse
  | index, some fence, done, line :: rest =>
    if fence.isClosedBy line then
      stepsFrom offset (index + 1) none (attach (fence.block offset) done) rest
    else stepsFrom offset (index + 1) (some { fence with body := line :: fence.body }) done rest
  | index, none, done, line :: rest =>
    match opens? index line with
    | some fence => stepsFrom offset (index + 1) (some fence) done rest
    | none => do
      let step? ← stepOf? offset index line
      stepsFrom offset (index + 1) none (step?.toList ++ done) rest

/-- The steps among lines of a guide, of which the first is line `offset`. -/
def steps (offset : Int) (lines : List Text) : Except LongInteger (List Step) :=
  stepsFrom offset 0 none [] lines

end GuidedMigration.Guide
