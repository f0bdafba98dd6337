/-
This file finds what a guide requires. A line that starts with a word for requirements and a colon
states one, wherever it stands; in a section about requirements, so do bullets with a name in bold
and the rows of tables.

It also finds the guides of providers that a guide refers to: files whose names end in `Auth.md` and
have something before that. They are named by the targets of links and in the text itself; each file
counts once, links first.
-/
import GuidedMigration.Guide.Basic
import GuidedMigration.Guide.Outline
import GuidedMigration.Text.Case
import GuidedMigration.Text.Character

namespace GuidedMigration.Guide

open Text

/-! ### Requirements -/

/-- The words that announce a requirement. -/
def requirementWords : List Text :=
  ["required", "require", "prerequisites", "prerequisite", "dependency", "dependencies"].map
    String.toList

/-- The parts of words that tell that a section is about requirements. -/
def requirementTitles : List Text :=
  ["requirement", "prerequisite", "dependenc"].map String.toList

/-- A line without the mark of a bullet. -/
def dropBullet (line : Text) : Text :=
  match trimLeft line with
  | mark :: rest =>
    if (mark = '-' || mark = '*') && rest.head?.any isBlank then trimLeft rest else mark :: rest
  | [] => []

/-- The requirement that a line states behind a word and a colon. -/
def statedRequirement? (line : Text) : Option Text :=
  requirementWords.findSome? fun word =>
    match (dropPrefixFolded? word (dropBullet line)).map trimLeft with
    | some (':' :: rest) => if rest.isEmpty then none else some (trim rest)
    | _ => none

/-- The requirement that a bullet states: a name in bold and possibly a description. -/
def boldRequirement? (line : Text) : Option Text :=
  match trimLeft line with
  | mark :: rest =>
    if (mark = '-' || mark = '*') && rest.head?.any isBlank then do
      let rest ← dropPrefix? ['*', '*'] (trimLeft rest)
      let name := rest.takeWhile (· != '*')
      let rest ← dropPrefix? ['*', '*'] (rest.drop name.length)
      let rest := trimLeft rest
      let description := trim ((dropPrefix? [':'] rest).getD rest)
      if name.isEmpty then none
      else if description.isEmpty then some (trim name)
      else some (trim name ++ [':', ' '] ++ description)
    else none
  | [] => none

/-- What stands between the outer bars of a row of a table, if it is not the line below the head. -/
def tableRow? (line : Text) : Option Text :=
  let line := trim line
  let inner := (line.drop 1).dropLast
  let isLayout (char : Char) : Bool := isBlank char || char = '|' || char = ':' || char = '-'
  if 3 ≤ line.length && line.head? = some '|' && line.getLast? = some '|' &&
      !inner.all isLayout then
    some inner
  else none

/-- The requirements in the rows of tables, of which the first is the head. -/
def tabledRequirements (lines : List Text) : List Text :=
  ((lines.filterMap tableRow?).map fun row =>
    joinWith [' ', '-', ' '] (((splitOn '|' row).map trim).filter (!·.isEmpty))).drop 1

/-- Whether a section is about requirements. -/
def isAboutRequirements (title : Text) : Bool := requirementTitles.any (occursIn · (fold title))

/-- The requirements of a guide with some lines and sections. -/
def requirements (lines : List Text) (spans : List Span) : List Text :=
  lines.filterMap statedRequirement? ++
    (spans.filter (isAboutRequirements ·.title)).flatMap fun span =>
      (span.body lines).filterMap boldRequirement? ++ tabledRequirements (span.body lines)

/-! ### Guides of providers -/

/-- What the names of provider guides end in. -/
def providerEnding : Text := ['A', 'u', 't', 'h', '.', 'm', 'd']

/-- The last part of a path that is neither empty nor a single dot; nothing if there is none. -/
def lastPart (path : Text) : Text :=
  (((splitOn '/' path).filter fun part => !part.isEmpty && part != ['.']).getLast?).getD []

/-- The file that the target of a link names, if it may be the guide of a provider. -/
def providerTarget? (target : Text) : Option Text :=
  let name := lastPart (target.takeWhile (· != '#'))
  if endsWith providerEnding name then some name else none

/-- Recognises the name of a provider guide that stands as a word of its own. -/
def providerWord : Recogniser Text := fun before text =>
  let word := text.takeWhile isWord
  let behind := text.drop word.length
  if !before.any isWord && 4 < word.length && endsWith ['A', 'u', 't', 'h'] word &&
      startsWith ['.', 'm', 'd'] behind && !((behind.drop 3).head?).any isWord then
    some (word ++ ['.', 'm', 'd'], word.length + 3)
  else none

/-- The references that files make, in order; a file without a provider before its ending makes
none. -/
def referencesOf (files : List Text) : List ProviderReference :=
  files.eraseDups.filterMap fun file =>
    let provider := file.take (file.length - providerEnding.length)
    if provider.isEmpty then none else some ⟨provider, file⟩

/-- The provider guides that links and a text refer to. -/
def providerReferences (links : List Link) (text : Text) : List ProviderReference :=
  referencesOf (links.filterMap (providerTarget? ·.target) ++ findAll providerWord text)

end GuidedMigration.Guide
