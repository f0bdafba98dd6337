/-
This file matches names against shell patterns: a star stands for any characters, a question mark
for one, and brackets for one character of a class, which may hold ranges and may be negated by an
exclamation mark. A bracket that is never closed stands for itself.
-/
import GuidedMigration.Text.Basic

namespace GuidedMigration.Text

/-- One part of a shell pattern. -/
inductive GlobPart where
  | star
  | any
  | char (char : Char)
  | oneOf (negated : Bool) (ranges : List (Char × Char))

namespace Glob

/-- The ranges that the chunks of a class between its hyphens make: the last character of a chunk
and the first of the next are the ends of a range, all others stand alone. -/
def rangesFrom (chunk : Text) : List Text → List (Char × Char)
  | [] => chunk.map fun char => (char, char)
  | next :: rest =>
    let alone := chunk.dropLast.map fun char => (char, char)
    match chunk.getLast?, next with
    | some low, high :: more => alone ++ (low, high) :: rangesFrom more rest
    | _, _ => alone ++ rangesFrom next rest

/-- The chunks of a class: it is cut at a hyphen that has a character before it and two behind the
last cut, as long as there is one. -/
def chunksOf : Nat → Nat → Text → Text → List Text
  | 0, _, chunk, rest => [chunk.reverse ++ rest]
  | _ + 1, _, chunk, [] => [chunk.reverse]
  | fuel + 1, wait, chunk, char :: rest =>
    if wait = 0 && char = '-' then chunk.reverse :: chunksOf fuel 2 [] rest
    else chunksOf fuel (wait - 1) (char :: chunk) rest

/-- The chunks with a hyphen at the end of the class counted to the chunk before it, and with the
ends of ranges that are the wrong way round removed. -/
def tidyChunks (chunks : List Text) : List Text :=
  let joined := match chunks.reverse with
    | [] :: chunk :: rest => ((chunk ++ ['-']) :: rest).reverse
    | _ => chunks
  joined.foldr (fun chunk done => match done with
    | [] => [chunk]
    | next :: rest => match chunk.getLast?, next.head? with
      | some low, some high =>
        if high < low then (chunk.dropLast ++ next.drop 1) :: rest else chunk :: next :: rest
      | _, _ => chunk :: next :: rest) []

/-- The class between brackets. It is negated if it starts with an exclamation mark once the ends of
ranges that are the wrong way round have been removed. -/
def classOf (body : Text) : GlobPart :=
  let chunks :=
    if body.contains '-' then
      tidyChunks (chunksOf body.length (if body.head? = some '!' then 2 else 1) [] body)
    else [body]
  match chunks with
  | ('!' :: first) :: rest => .oneOf true (rangesFrom [] (first :: rest))
  | _ => .oneOf false (rangesFrom [] chunks)

/-- The body of a class and the text behind its closing bracket. A bracket at the start of the class
belongs to it. -/
def classBody? (text : Text) : Option (Text × Text) :=
  let opening := match text with
    | '!' :: ']' :: _ => 2
    | ']' :: _ => 1
    | '!' :: _ => 1
    | _ => 0
  let more := (text.drop opening).takeWhile (· != ']')
  match text.drop (opening + more.length) with
  | _ :: rest => some (text.take opening ++ more, rest)
  | [] => none

/-- The parts of a pattern; `fuel` is at least its length. -/
def partsOf : Nat → Text → List GlobPart
  | 0, _ => []
  | _, [] => []
  | fuel + 1, char :: text =>
    if char = '*' then .star :: partsOf fuel text
    else if char = '?' then .any :: partsOf fuel text
    else if char = '[' then
      match classBody? text with
      | some (body, rest) => classOf body :: partsOf fuel rest
      | none => .char char :: partsOf fuel text
    else .char char :: partsOf fuel text

/-- Whether a part stands for a character. -/
def accepts : GlobPart → Char → Bool
  | .star, _ => true
  | .any, _ => true
  | .char wanted, char => wanted = char
  | .oneOf negated ranges, char =>
    (ranges.any fun (low, high) => low ≤ char && char ≤ high) != negated

/-- All ends of a text: the text itself, then shorter and shorter ones. -/
def tails : Text → List Text
  | [] => [[]]
  | char :: text => (char :: text) :: tails text

/-- Whether the parts match a whole text. -/
def accept : List GlobPart → Text → Bool
  | [], text => text.isEmpty
  | .star :: parts, text => (tails text).any (accept parts)
  | part :: parts, text => match text with
    | char :: rest => accepts part char && accept parts rest
    | [] => false

end Glob

/-- Whether a pattern matches a whole name. -/
def globMatches (pattern name : Text) : Bool :=
  Glob.accept (Glob.partsOf (pattern.length + 1) pattern) name

end GuidedMigration.Text
