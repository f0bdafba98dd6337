/-
This file reads the tokens that a step puts between backquotes, and tells paths, packages and
statements among them.
-/
import GuidedMigration.Text.Case
import GuidedMigration.Text.Lines

namespace GuidedMigration.Instruction

open Text

/-- The backquote. -/
def backquote : Char := '\x60'

/-- Recognises a text between backquotes that is not empty. -/
def quotedToken : Recogniser Text := fun _ text => match text with
  | first :: rest =>
    let inner := rest.takeWhile (· != backquote)
    if first = backquote && !inner.isEmpty && inner.length < rest.length then
      some (inner, inner.length + 2)
    else none
  | [] => none

/-- The tokens between backquotes, without blanks around them. -/
def tokens (text : Text) : List Text := (findAll quotedToken text).map trim

/-- The characters that show that a token is code and no path. -/
def isCodeChar (char : Char) : Bool :=
  char = '(' || char = ')' || char = ';' || char = '\'' || char = '"' || char = '<' || char = '>'

/-- Whether a token ends in a point and one to six letters or digits. -/
def hasExtension (token : Text) : Bool :=
  let reversed := token.reverse
  let size := (reversed.takeWhile isAsciiAlnum).length
  1 ≤ size && size ≤ 6 && (reversed.drop size).head? = some '.'

/-- Whether a token is a path. -/
def isPath (token : Text) : Bool :=
  !token.contains ' ' && token.head? != some '@' && !token.any isCodeChar &&
    (token.contains '/' || hasExtension token)

/-- The endings of source files. -/
def sourceEndings : List Text :=
  [".ts", ".tsx", ".js", ".jsx", ".mjs", ".cjs"].map String.toList

/-- The first token that is the path of a source file. -/
def sourceTarget? (text : Text) : Option Text :=
  (tokens text).find? fun token => isPath token && endsWithAny sourceEndings token

/-- The first token that is a path. -/
def anyTarget? (text : Text) : Option Text := (tokens text).find? isPath

/-- Whether a token is a whole statement or element. -/
def isStatement (token : Text) : Bool :=
  endsWithAny [[';'], [')'], ['/', '>']] (trimRight token)

/-- A text without a part at its start: `mark` and one or more characters that `inPart` accepts. -/
def dropMarked? (mark : Char) (inPart : Char → Bool) : Text → Option Text
  | char :: rest =>
    if char = mark && rest.head?.any inPart then some (rest.dropWhile inPart) else none
  | [] => none

/-- The characters of the parts of a package's name. -/
def isPackageChar (char : Char) : Bool := isWord char || char = '.' || char = '-'

/-- The characters of a package's version. -/
def isVersionChar (char : Char) : Bool :=
  isPackageChar char || char = '^' || char = '~'

/-- Whether a token is the name of a package, possibly with a scope and a version. -/
def isPackage (token : Text) : Bool :=
  let name := if token.head? = some '@' then token.drop 1 else token
  match name with
  | first :: rest =>
    (isAsciiLower first || isAsciiDigit first) &&
      let rest := rest.dropWhile isPackageChar
      let rest := (dropMarked? '/' isPackageChar rest).getD rest
      ((dropMarked? '@' isVersionChar rest).getD rest).isEmpty
  | [] => false

/-! ### From one path to another -/

/-- One or more blanks at the start of a text are dropped. -/
def dropBlanks? (text : Text) : Option Text :=
  if text.head?.any isBlank then some (trimLeft text) else none

/-- The words that lead to a destination. -/
def dropTo? (text : Text) : Option Text :=
  match dropPrefixFolded? ['i', 'n', 't', 'o'] text with
  | some rest => some rest
  | none => dropPrefixFolded? ['t', 'o'] text

/-- The text between backquotes at the start of a text. -/
def quotedPath? (text : Text) : Option (Text × Text) :=
  (quotedToken none text).map fun (token, size) => (token, text.drop size)

/-- The characters of a path without quotes. -/
def isBareChar (char : Char) : Bool :=
  isWord char || char = '.' || char = '/' || char = '@' || char = '-'

/-- The path without quotes at the start of a text. -/
def barePath? (text : Text) : Option (Text × Text) :=
  let path := text.takeWhile isBareChar
  if path.isEmpty then none else some (path, text.drop path.length)

/-- Recognises the word `from`, a path, `to` or `into`, and another path. -/
def fromTo (path? : Text → Option (Text × Text)) : Recogniser (Text × Text) := fun before text =>
  if before.any isWord then none
  else do
    let rest ← dropPrefixFolded? ['f', 'r', 'o', 'm'] text
    let rest ← dropBlanks? rest
    let (source, rest) ← path? rest
    let rest ← dropBlanks? rest
    let rest ← dropTo? rest
    let rest ← dropBlanks? rest
    let (destination, rest) ← path? rest
    some ((source, destination), text.length - rest.length)

/-! ### Commands that install packages -/

/-- One or more spaces or tabs at the start of a text are dropped. -/
def dropGap? (text : Text) : Option Text :=
  if text.head?.any isSpaceOrTab then some (text.dropWhile isSpaceOrTab) else none

/-- The command `yarn add`, possibly with a working directory. -/
def dropYarnAdd? (text : Text) : Option Text := do
  let rest ← dropPrefix? ['y', 'a', 'r', 'n'] text
  let add := ['a', 'd', 'd']
  let withDirectory := do
    let rest ← dropGap? rest
    let rest ← dropPrefix? ['-', '-', 'c', 'w', 'd'] rest
    let rest ← dropGap? rest
    let rest ← if rest.head?.any (!isBlank ·) then some (rest.dropWhile (!isBlank ·)) else none
    let rest ← dropGap? rest
    dropPrefix? add rest
  match withDirectory with
  | some rest => some rest
  | none => do
    let rest ← dropGap? rest
    dropPrefix? add rest

/-- The command `npm install`, which may be shortened. -/
def dropNpmInstall? (text : Text) : Option Text := do
  let rest ← dropPrefix? ['n', 'p', 'm'] text
  let rest ← dropGap? rest
  match dropPrefix? ['i', 'n', 's', 't', 'a', 'l', 'l'] rest with
  | some more => if more.head?.any isSpaceOrTab then some more else dropPrefix? ['i'] rest
  | none => dropPrefix? ['i'] rest

/-- The characters of the arguments of a command: no blank but spaces and tabs, and no mark that
ends the command. -/
def isArgumentChar (char : Char) : Bool :=
  isSpaceOrTab char || !(isBlank char || char = '&' || char = '|' || char = ';')

/-- Recognises a command that installs packages; what it finds are the arguments. -/
def installCommand : Recogniser Text := fun _ text => do
  let rest ← match dropYarnAdd? text with
    | some rest => some rest
    | none => dropNpmInstall? text
  let rest ← dropGap? rest
  let arguments := rest.takeWhile isArgumentChar
  if arguments.isEmpty then none
  else some (arguments, text.length - rest.length + arguments.length)

/-- The packages that the commands of a script install: their arguments that are no options. -/
def installedPackages (script : Text) : List Text :=
  ((findAll installCommand script).flatMap Text.words).filter fun word => word.head? != some '-'

end GuidedMigration.Instruction
