/-
This file inserts fragments into source files. A fragment that a file already holds is not inserted
again: it is held if it occurs as it is, or if its lines, in disregard of indentation and of blank
lines, occur one behind the other. Otherwise a chain of locators is tried in order and the fragment
goes to the first anchor found, with the anchor's indentation.
-/
import GuidedMigration.Code.Anchor

namespace GuidedMigration.Code

open Text

/-! ### Presence -/

/-- The lines of a text that are not blank, without blanks around them. -/
def strippedRows (text : Text) : List Text :=
  ((lines (trim text)).filter (!isBlankText ·)).map trim

/-- Whether a content holds a fragment. -/
def contains (content fragment : Text) : Bool :=
  let trimmed := trim fragment
  trimmed.isEmpty || occursIn trimmed content ||
    occursIn ('\n' :: joinLines (strippedRows fragment) ++ ['\n'])
      ('\n' :: joinLines (strippedRows content) ++ ['\n'])

/-! ### Splicing -/

/-- The lines of a fragment without their common margin, indented; blank lines are empty. -/
def rendered (fragment indent : Text) : List Text :=
  (splitOn '\n' (dedent (trimWhile (· = '\n') fragment))).map fun row =>
    if isBlankText row then [] else indent ++ row

/-- The lines with a fragment inserted at an anchor. With `pad`, blank lines set it off from lines
that are not blank. -/
def splice (rows : List Text) (anchor : Anchor) (fragment : Text) (pad : Bool) : List Text :=
  let block := rendered fragment anchor.indent
  let before := rows.take anchor.index
  let behind := rows.drop anchor.index
  let above := pad && before.getLast?.any (!isBlankText ·)
  let below := pad && behind.head?.any (!isBlankText ·)
  before ++ (if above then [[]] else []) ++ block ++ (if below then [[]] else []) ++ behind

/-- The lines of a content, without the empty one behind a newline at its end. -/
def contentRows (content : Text) : List Text :=
  let rows := splitOn '\n' content
  if content.getLast? = some '\n' then rows.dropLast else rows

/-- The result of an insertion: the new content, and the locator whose anchor was used; there is
none if the fragment was held already. -/
structure Insertion where
  content : Text
  locator : Option Locator

/-- Whether an insertion changed the content. -/
def Insertion.applied (insertion : Insertion) : Bool := insertion.locator.isSome

/-- How the place was found. -/
def Insertion.strategy (insertion : Insertion) : Text :=
  match insertion.locator with
  | some locator => locator.name
  | none => "present".toList

/-- The first locator of a chain that finds an anchor, and the anchor. -/
def firstAnchor? (rows : List Text) (chain : List Locator) : Option (Locator × Anchor) :=
  chain.findSome? fun locator => (locator.locate rows).map (locator, ·)

/-- A content with a fragment inserted at the first anchor that a chain finds; nothing if it finds
none. The content ends in a newline if it did so before or was empty. -/
def insert? (content fragment : Text) (chain : List Locator) (pad : Bool) : Option Insertion :=
  if contains content fragment then some ⟨content, none⟩
  else (firstAnchor? (contentRows content) chain).map fun (locator, anchor) =>
    let joined := joinLines (splice (contentRows content) anchor fragment pad)
    let ends := content.isEmpty || content.getLast? = some '\n'
    ⟨if ends then joined ++ ['\n'] else joined, some locator⟩

end GuidedMigration.Code
