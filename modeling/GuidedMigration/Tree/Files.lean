/-
This file holds what is done to a tree of files: reading texts, writing them, making directories and
removing what stands at a path. An action gives a result or a failure and the tree that it leaves; a
failed action leaves what it did before it failed.
-/
import GuidedMigration.Failure
import GuidedMigration.Text.Lines

namespace GuidedMigration

/-- An action on a tree of files. -/
abbrev Files := ExceptT Failure (StateM Tree)

namespace Tree

/-- The text of the file at a path, with every line break read as a newline. -/
def read (tree : Tree) (path : Path) : Except Failure Text :=
  match tree.bytes path with
  | .error fault => .error (.file fault)
  | .ok bytes => match Utf8.decode bytes with
    | .error fault => .error (.undecodable fault)
    | .ok text => .ok (Text.unifyNewlines text)

/-- Makes one directory, whose place must be free. -/
def makeDirectory (tree : Tree) (path : Path) : Except FileFault Tree := do
  let place ← tree.place path
  match tree.find? place with
  | some _ => .error (.system .taken path.toText)
  | none => .ok (tree.put place .directory)

/-- Writes bytes to a file, which may be there. -/
def writeBytes (tree : Tree) (path : Path) (bytes : Utf8.Bytes) : Except FileFault Tree := do
  let place ← tree.place path
  match tree.find? place with
  | some .directory => .error (.system .isDirectory path.toText)
  | _ => .ok (tree.put place (.file bytes))

end Tree

namespace Files

/-- What the tree says. -/
def ask {Answer : Type} (question : Tree → Except FileFault Answer) : Files Answer := fun tree =>
  match question tree with
  | .ok answer => (.ok answer, tree)
  | .error fault => (.error (.file fault), tree)

/-- A change of the tree, which stays as it is if the change fails. -/
def change (attempt : Tree → Except FileFault Tree) : Files Unit := fun tree =>
  match attempt tree with
  | .ok changed => (.ok (), changed)
  | .error fault => (.error (.file fault), tree)

/-- Whether something stands at a path. -/
def exists? (path : Path) : Files Bool := ask (·.exists? path)

/-- Whether a directory stands at a path. -/
def isDirectory? (path : Path) : Files Bool := ask (·.isDirectory? path)

/-- Whether a file stands at a path. -/
def isFile? (path : Path) : Files Bool := ask (·.isFile? path)

/-- The bytes of the file at a path. -/
def bytes (path : Path) : Files Utf8.Bytes := ask (·.bytes path)

/-- The text of the file at a path. -/
def read (path : Path) : Files Text := fun tree => (tree.read path, tree)

/-- Makes a directory if it is not there; something else in its place is a fault. -/
def ensureOne (path : Path) : Files Unit := fun tree =>
  match tree.makeDirectory path with
  | .ok made => (.ok (), made)
  | .error fault => match tree.isDirectory? path with
    | .ok true => (.ok (), tree)
    | _ => (.error (.file fault), tree)

/-- Makes a directory and, where they are missing, those above it. The last part of the path comes
first. -/
def ensureFrom (root : Text) : List Text → Files Unit
  | [] => ensureOne ⟨root, []⟩
  | last :: above => fun tree =>
    let path : Path := ⟨root, (last :: above).reverse⟩
    match tree.makeDirectory path with
    | .error (.system .absent _) =>
      (do
        ensureFrom root above
        ensureOne path : Files Unit) tree
    | _ => ensureOne path tree

/-- Makes a directory and those above it. -/
def ensureDirectory (path : Path) : Files Unit := ensureFrom path.root path.parts.reverse

/-- Writes a text to a file; the directories above it are made. -/
def write (path : Path) (content : Text) : Files Unit := do
  ensureDirectory path.parent
  change (·.writeBytes path (Utf8.encode content))

/-- Removes what stands at a path, and says whether anything did. -/
def remove (path : Path) : Files Bool := fun tree =>
  match tree.look path with
  | .error fault => (.error (.file fault), tree)
  | .ok none => (.ok false, tree)
  | .ok (some _) => match tree.place path with
    | .ok place => (.ok true, tree.cut place)
    | .error fault => (.error (.file fault), tree)

end Files

end GuidedMigration
