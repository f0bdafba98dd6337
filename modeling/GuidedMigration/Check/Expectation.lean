/-
This file states what a migrated application is expected to hold, and checks it. A check only reads:
every expectation is looked at, and each lands among those that hold, those that fail, or, if it is
a soft one, the warnings.
-/
import GuidedMigration.Config.Document
import GuidedMigration.Value.Display

namespace GuidedMigration

open Text

/-- What is checked about a path. -/
inductive CheckKind where
  /-- Something stands there. -/
  | exists
  /-- A file there holds a text. -/
  | contains
  /-- A configuration document there has a key path. -/
  | key
  /-- Nothing stands there, or the file there does not hold a text. -/
  | absent
  deriving DecidableEq

/-- The name of a kind of check. -/
def CheckKind.name : CheckKind → Text
  | .exists => "exists".toList
  | .contains => "contains".toList
  | .key => "key".toList
  | .absent => "absent".toList

/-- The kinds of check. -/
def CheckKind.all : List CheckKind := [.exists, .contains, .key, .absent]

/-- The kind of check with a name. -/
def CheckKind.ofName? (name : Text) : Option CheckKind := all.find? (·.name = name)

/-- An expectation about a path below some root. A soft one only warns. -/
structure Expectation where
  path : Text
  kind : CheckKind := .exists
  needle : Option Text := none
  isSoft : Bool := false
  label : Option Text := none

/-- An expectation in words. -/
def Expectation.describe (expectation : Expectation) : Text :=
  match expectation.label with
  | some (first :: rest) => first :: rest
  | _ =>
    if expectation.kind = .exists then expectation.path
    else
      let detail : Text := match expectation.needle with
        | some (first :: rest) => [':', ' '] ++ first :: rest
        | _ => []
      expectation.path ++ [' ', '['] ++ expectation.kind.name ++ detail ++ [']']

/-- What comes of a list of checks. -/
structure Findings where
  passed : List Text := []
  failed : List Text := []
  warnings : List Text := []
  deriving DecidableEq

namespace Findings

/-- Whether no check failed. -/
def isOk (findings : Findings) : Bool := findings.failed.isEmpty

/-- The findings of two lists of checks. -/
def append (first second : Findings) : Findings :=
  ⟨first.passed ++ second.passed, first.failed ++ second.failed,
    first.warnings ++ second.warnings⟩

end Findings

namespace Check

/-- The configuration document at a path as the tree stands. One that holds itself has no keys to
look for and counts as malformed. -/
def document (tree : Tree) (path : Path) : Except Failure Mapping :=
  match (Config.load path tree).1 with
  | .error (.yaml .endless) => .error (.malformed (.yaml path))
  | loaded => loaded

/-- Whether something stands at a path as the tree stands. -/
def stands (tree : Tree) (path : Path) : Except Failure Bool :=
  match tree.exists? path with
  | .ok found => .ok found
  | .error fault => .error (.file fault)

/-- Whether a directory stands at a path as the tree stands. -/
def isDirectory (tree : Tree) (path : Path) : Except Failure Bool :=
  match tree.isDirectory? path with
  | .ok found => .ok found
  | .error fault => .error (.file fault)

/-- Whether an expectation holds. -/
def holds (tree : Tree) (root : Path) (expectation : Expectation) : Except Failure Bool := do
  let path := root.child expectation.path
  let found ← stands tree path
  match expectation.kind with
  | .exists => .ok found
  | .absent => match expectation.needle with
    | none => .ok !found
    | some needle =>
      if !found then .ok true
      else do
        let text ← tree.read path
        .ok !(occursIn needle text)
  | .contains =>
    if !found || (← isDirectory tree path) then .ok false
    else do
      let text ← tree.read path
      .ok (occursIn (expectation.needle.getD []) text)
  | .key =>
    if !found || (← isDirectory tree path) then .ok false
    else do
      let document ← document tree path
      .ok ((Value.map document).lookUp? (expectation.needle.getD [])).isSome

/-- The findings of one expectation under a name. -/
def judge (name : Text) (ok : Bool) (expectation : Expectation) : Findings :=
  if ok then { passed := [name] }
  else if expectation.isSoft then { warnings := [name] }
  else { failed := [name] }

/-- The findings of one expectation. One that cannot be checked because a file cannot be read does
not hold, and its name says why. -/
def check (tree : Tree) (root : Path) (expectation : Expectation) : Except Failure Findings :=
  let name := expectation.describe
  match holds tree root expectation with
  | .ok ok => .ok (judge name ok expectation)
  | .error failure =>
    if failure.endsPhase then
      .ok (judge (name ++ [' ', '('] ++ failure.message ++ [')']) false expectation)
    else .error failure

/-- The findings of all expectations, in order. -/
def checkAll (tree : Tree) (root : Path) : List Expectation → Except Failure Findings
  | [] => .ok {}
  | expectation :: rest => do
    let first ← check tree root expectation
    let later ← checkAll tree root rest
    .ok (first.append later)

/-- The findings on a template and its local document: both have the same key paths. -/
def parity (tree : Tree) (template locals : Path) : Except Failure Findings := do
  if !(← stands tree locals) then
    .ok { warnings := [locals.name ++ " not present; dual configuration inactive".toList] }
  else do
    let held ← document tree template
    let known ← document tree locals
    let templateKeys := (Value.map held).keyPaths
    let localKeys := (Value.map known).keyPaths
    let missing (path : Path) (keys others : List Text) : List Text :=
      (keys.filter (!others.contains ·)).map fun key =>
        path.name ++ " missing key ".toList ++ key
    let failed := missing locals templateKeys localKeys ++ missing template localKeys templateKeys
    if failed.isEmpty then
      .ok { passed := ["key parity ".toList ++ template.name ++ " == ".toList ++ locals.name] }
    else .ok { failed := failed }

/-- Fails if a check failed. -/
def require (findings : Findings) : Except Failure Unit :=
  if findings.isOk then .ok () else .error (.checks findings.failed.length)

end Check

end GuidedMigration
