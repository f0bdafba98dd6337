/-
This file cuts texts into lines and changes their margins. A line ends at any line break of
Unicode; a carriage return and the newline behind it are one break. Files are read with every
carriage return, alone or before a newline, turned into a newline.
-/
import GuidedMigration.Text.Character

namespace GuidedMigration.Text

/-- The lines of a text without their breaks; a break at the very end opens no further line. -/
def lines : Text → List Text
  | [] => []
  | '\r' :: '\n' :: text => [] :: lines text
  | char :: text =>
    if isLineBreak char then [] :: lines text
    else match lines text with
      | [] => [[char]]
      | line :: rest => (char :: line) :: rest

/-- A text in which a carriage return, with the newline behind it if there is one, is a newline. -/
def unifyNewlines : Text → Text
  | [] => []
  | '\r' :: '\n' :: text => '\n' :: unifyNewlines text
  | char :: text => (if char = '\r' then '\n' else char) :: unifyNewlines text

/-- The longest common start of two texts. -/
def commonPrefix : Text → Text → Text
  | left :: lefts, right :: rights => if left = right then left :: commonPrefix lefts rights else []
  | _, _ => []

/-- The lines without the margin of spaces and tabs that all lines with another character share; a
line of spaces and tabs alone becomes empty. -/
def dedentLines (rows : List Text) : List Text :=
  let margins := (rows.filter fun row => !row.all isSpaceOrTab).map (·.takeWhile isSpaceOrTab)
  let margin := match margins with
    | [] => []
    | first :: rest => rest.foldl commonPrefix first
  rows.map fun row => if row.all isSpaceOrTab then [] else row.drop margin.length

/-- A text without the margin that its lines share. -/
def dedent (text : Text) : Text := joinLines (dedentLines (splitOn '\n' text))

/-- A text in which three or more newlines in a row are two. -/
def collapseNewlines : Nat → Text → Text
  | _, [] => []
  | run, char :: text =>
    if char = '\n' then
      if run < 2 then '\n' :: collapseNewlines (run + 1) text else collapseNewlines run text
    else char :: collapseNewlines 0 text

end GuidedMigration.Text
