/-
This file finds the plugins that the guide to integration lists. A plugin has a heading of the third
level that ends in the word plugin, and below it a link to the guide of its frontend, to that of its
backend, or to both. Links to guides that are missing do not count, nor do plugins without a guide.
-/
import GuidedMigration.Text.Case
import GuidedMigration.Text.Lines
import GuidedMigration.Tree.Files

namespace GuidedMigration

/-- What is known of a plugin: its short name, the name it is shown by, and its guides. -/
structure PluginMetadata where
  name : Text
  displayName : Text
  frontend : Option Text := none
  backend : Option Text := none
  deriving DecidableEq

namespace Plugin

open Text

/-! ### Names -/

/-- A text with every run of hyphens written as one. -/
def joinHyphens : Text → Text
  | '-' :: '-' :: rest => joinHyphens ('-' :: rest)
  | char :: rest => char :: joinHyphens rest
  | [] => []

/-- A text with every run of blanks written as a hyphen. -/
def hyphenBlanks : Bool → Text → Text
  | _, [] => []
  | within, char :: rest =>
    if isBlank char then
      if within then hyphenBlanks true rest else '-' :: hyphenBlanks true rest
    else char :: hyphenBlanks false rest

/-- The short name for a name that is shown: small letters, with hyphens for blanks and slashes, and
nothing but characters of words otherwise. -/
def slug (displayName : Text) : Text :=
  let hyphened := (hyphenBlanks false (lower displayName)).map fun char =>
    if char = '/' || char = '\\' then '-' else char
  let kept := hyphened.filter fun char => isWord char || char = '-'
  trimWhile (· = '-') (joinHyphens kept)

/-- The directory of a plugin: the name of the one that its guide stands in. -/
def directoryName? (guide : Text) : Option Text :=
  let path := Path.ofText (guide.map fun char => if char = '\\' then '/' else char)
  let name := path.parent.name
  if name.isEmpty then none else some name

/-- Whether open values in the guides of a plugin are turned into placeholders. -/
def normalizes (name : Text) : Bool := occursIn "github".toList name

/-! ### The guide to integration -/

/-- A text without the word plugin at its end, in any case. -/
def dropPluginWord? (text : Text) : Option Text :=
  match dropPrefixFolded? "nigulp".toList text.reverse with
  | some rest => some rest.reverse
  | none => none

/-- The name that a heading gives a plugin. The heading is a line without blanks at its ends. A
heading with three blanks and nothing else before the last word gives the empty name. -/
def headingName? (line : Text) : Option Text := do
  let behind ← dropPrefix? ['#', '#', '#'] line
  let blanks := behind.takeWhile isBlank
  let body := behind.drop blanks.length
  let before ← dropPluginWord? body
  if blanks.isEmpty then none
  else if before.isEmpty then (if 3 ≤ blanks.length then some [] else none)
  else if before.getLast?.any isBlank then some (trimRight before)
  else none

/-- Recognises a link whose text ends in `README` and whose target is a Markdown file; what it finds
is the target. -/
def readmeLink : Recogniser Text := fun _ text => match text with
  | '[' :: rest =>
    let label := rest.takeWhile (· != ']')
    match rest.drop label.length with
    | ']' :: '(' :: more =>
      let target := more.takeWhile (· != ')')
      if endsWith "README".toList label && endsWith ".md".toList target &&
          target.length < more.length then
        some (target, label.length + target.length + 4)
      else none
    | _ => none
  | _ => none

/-- The marks of the two links of a plugin. -/
def frontendMark : Text := "- **Frontend**:".toList

/-- The mark of the link to the guide of a backend. -/
def backendMark : Text := "- **Backend**:".toList

/-- Whether a guide stands below the directory of the guides. -/
def hasGuide (tree : Tree) (guides : Path) (target : Text) : Except Failure Bool :=
  match tree.exists? (guides.child target) with
  | .ok found => .ok found
  | .error fault => .error (.file fault)

/-- A plugin with what a line below its heading says. -/
def readLine (tree : Tree) (guides : Path) (line : Text) (plugin : PluginMetadata) :
    Except Failure PluginMetadata :=
  if startsWith frontendMark line || startsWith backendMark line then
    match findFirst? readmeLink line with
    | none => .ok plugin
    | some target => do
      if ← hasGuide tree guides target then
        if startsWith frontendMark line then .ok { plugin with frontend := some target }
        else .ok { plugin with backend := some target }
      else .ok plugin
  else .ok plugin

/-- A plugin that has a guide. -/
def kept (plugin : PluginMetadata) : List PluginMetadata :=
  let has (guide : Option Text) : Bool := guide.any (!·.isEmpty)
  if has plugin.frontend || has plugin.backend then [plugin] else []

/-- The plugins among lines; `current` is the one whose heading stands above them. -/
def discoverFrom (tree : Tree) (guides : Path) :
    Option PluginMetadata → List Text → Except Failure (List PluginMetadata)
  | current, [] => .ok (current.toList.flatMap kept)
  | current, line :: rest =>
    match headingName? line with
    | some name => do
      let later ← discoverFrom tree guides (some { name := slug name, displayName := name }) rest
      .ok (current.toList.flatMap kept ++ later)
    | none => match current with
      | none => discoverFrom tree guides none rest
      | some plugin => do
        let plugin ← readLine tree guides line plugin
        discoverFrom tree guides (some plugin) rest

/-- The plugins that a text lists. Their guides are looked for below a directory. -/
def discover (tree : Tree) (guides : Path) (text : Text) : Except Failure (List PluginMetadata) :=
  discoverFrom tree guides none ((lines text).map trim)

end Plugin

end GuidedMigration
