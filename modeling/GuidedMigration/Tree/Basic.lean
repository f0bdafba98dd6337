/-
This file holds a tree of files: which places hold a file and its bytes, and which are directories.
A path is looked up part by part as the tree stands: two dots lead up only from a directory that is
there, and nothing lies below a file.
-/
import GuidedMigration.Text.Character
import GuidedMigration.Text.Utf8
import GuidedMigration.Tree.Path

namespace GuidedMigration

/-- What stands at a place. -/
inductive Tree.Node where
  | file (bytes : Utf8.Bytes)
  | directory

/-- A tree: the places below the working directory and what stands at them. -/
structure Tree where
  entries : List (Path.Place × Tree.Node)

/-- Why an operation on a path fails. -/
inductive FileCause where
  | absent
  | taken
  | notDirectory
  | isDirectory
  | nameTooLong
  deriving DecidableEq

/-- The number and the wording of a cause. -/
def FileCause.message : FileCause → Text
  | .absent => "[Errno 2] No such file or directory".toList
  | .taken => "[Errno 17] File exists".toList
  | .notDirectory => "[Errno 20] Not a directory".toList
  | .isDirectory => "[Errno 21] Is a directory".toList
  | .nameTooLong => "[Errno 36] File name too long".toList

/-- One line of the report on the copy of a directory: a failed copy with where from, where to and
why, or one character of the report on a file copied to itself. -/
inductive FailedCopy where
  | entry (source destination reason : Text)
  | letter (char : Char)

/-- What goes wrong with files: an operation on one path, some of the copies of a directory, the
copy of a file to itself, or a path with a null character. -/
inductive FileFault where
  | system (cause : FileCause) (path : Text)
  | copies (failed : List FailedCopy)
  | sameFile (source destination : Text)
  | nullCharacter

/-- A line of a report, in words. -/
def FailedCopy.message : FailedCopy → Text
  | .entry source destination reason =>
    ['('] ++ Text.joinWith [',', ' '] ([source, destination, reason].map Text.quoted) ++ [')']
  | .letter char => Text.quoted [char]

/-- The wording of a fault. -/
def FileFault.message : FileFault → Text
  | .system cause path => cause.message ++ [':', ' '] ++ Text.quoted path
  | .copies failed => ['['] ++ Text.joinWith [',', ' '] (failed.map FailedCopy.message) ++ [']']
  | .sameFile source destination =>
    source ++ " and ".toList ++ destination ++ " are the same file".toList
  | .nullCharacter => "embedded null byte".toList

namespace Tree

/-- The working directory. Its name is empty, so that no path can name it. -/
def here : Path.Place := [[]]

/-- The longest name and the longest path, in bytes. -/
def nameLimit : Nat := 255

/-- The number of bytes that no path reaches. -/
def pathLimit : Nat := 4096

/-- What stands at a place. The root and the working directory are always there. -/
def find? (tree : Tree) (place : Path.Place) : Option Node :=
  if place = [] || place = here then some .directory else tree.entries.lookup place

/-- Whether a place holds a directory. -/
def isDirectoryAt (tree : Tree) (place : Path.Place) : Bool :=
  match tree.find? place with
  | some .directory => true
  | _ => false

/-- The entries with something new at a place. -/
def putEntry (place : Path.Place) (node : Node) :
    List (Path.Place × Node) → List (Path.Place × Node)
  | [] => [(place, node)]
  | (other, old) :: rest =>
    if other = place then (place, node) :: rest else (other, old) :: putEntry place node rest

/-- The tree with something new at a place. -/
def put (place : Path.Place) (node : Node) (tree : Tree) : Tree :=
  ⟨putEntry place node tree.entries⟩

/-- The tree without a place and all that is below it. -/
def cut (place : Path.Place) (tree : Tree) : Tree :=
  ⟨tree.entries.filter fun (other, _) => !place.isPrefixOf other⟩

/-- The names directly below a place, in the order in which they were made. -/
def names (place : Path.Place) (tree : Tree) : List Text :=
  tree.entries.filterMap fun (other, _) =>
    if other.dropLast = place && other != here then other.getLast? else none

/-- The place that the parts of a path lead to. The last one need not exist. -/
def walk (tree : Tree) : Path.Place → List Text → Except FileCause Path.Place
  | place, [] => .ok place
  | place, part :: rest => match tree.find? place with
    | none => .error .absent
    | some (.file _) => .error .notDirectory
    | some .directory =>
      if part = Path.up then walk tree place.dropLast rest
      else if nameLimit < (Utf8.encode part).length then .error .nameTooLong
      else walk tree (place ++ [part]) rest

/-- The place that a path leads to. -/
def place (tree : Tree) (path : Path) : Except FileFault Path.Place :=
  if path.parts.any (·.contains '\x00') then .error .nullCharacter
  else if pathLimit ≤ (Utf8.encode path.toText).length then
    .error (.system .nameTooLong path.toText)
  else match tree.walk (if path.isAbsolute then [] else here) path.parts with
    | .ok place => .ok place
    | .error cause => .error (.system cause path.toText)

/-- What stands at a path. There is nothing below a file or a missing directory, but a name that is
too long is a fault. -/
def look (tree : Tree) (path : Path) : Except FileFault (Option Node) :=
  match tree.place path with
  | .ok place => .ok (tree.find? place)
  | .error (.system .nameTooLong text) => .error (.system .nameTooLong text)
  | .error _ => .ok none

/-- Whether something stands at a path. -/
def exists? (tree : Tree) (path : Path) : Except FileFault Bool :=
  (tree.look path).map Option.isSome

/-- Whether a directory stands at a path. -/
def isDirectory? (tree : Tree) (path : Path) : Except FileFault Bool :=
  (tree.look path).map fun
    | some .directory => true
    | _ => false

/-- Whether a file stands at a path. -/
def isFile? (tree : Tree) (path : Path) : Except FileFault Bool :=
  (tree.look path).map fun
    | some (.file _) => true
    | _ => false

/-- The bytes of the file at a path. -/
def bytes (tree : Tree) (path : Path) : Except FileFault Utf8.Bytes := do
  let place ← tree.place path
  match tree.find? place with
  | some (.file bytes) => .ok bytes
  | some .directory => .error (.system .isDirectory path.toText)
  | none => .error (.system .absent path.toText)

/-- The files at or below a path, in the order of their paths; `fuel` bounds their depth. -/
def filesBelow (tree : Tree) : Nat → Path → List Path
  | 0, _ => []
  | fuel + 1, path => match tree.place path with
    | .error _ => []
    | .ok place => match tree.find? place with
      | some (.file _) => [path]
      | some .directory => (tree.names place).flatMap fun name =>
          filesBelow tree fuel { path with parts := path.parts ++ [name] }
      | none => []

/-- All files at or below a path. -/
def files (tree : Tree) (path : Path) : List Path :=
  (tree.filesBelow (tree.entries.length + 1) path).mergeSort Path.le

end Tree

end GuidedMigration
