/-
This file runs the command line on the working directory. It reads the directory into a tree, runs
the command on the tree, makes the changes that the command made to the tree, and prints what it
says. Links to directories are not followed, and nothing outside of the working directory is seen.
-/
import GuidedMigration.CommandLine.Run
import Std.Time.Format

namespace GuidedMigration.CommandLine

/-- How a command is written. -/
def usage : String :=
  "Usage: parse|classify PATH\n" ++
  "       migrate|validate|history|init [OPTIONS]"

/-- The name by which the file system knows a place below the working directory. -/
def fileName (place : Path.Place) : String :=
  "./" ++ String.ofList (Text.joinWith ['/'] (place.drop 1))

/-- What stands below a place of the file system, behind what has been found before; a directory
comes before what it holds. -/
partial def readBelow (found : Array (Path.Place × Tree.Node)) (place : Path.Place) :
    IO (Array (Path.Place × Tree.Node)) := do
  let directory ← IO.FS.realPath (fileName place)
  let mut found := found
  for entry in ← directory.readDir do
    let inner := place ++ [entry.fileName.toList]
    let isLink := (← entry.path.symlinkMetadata).type == .symlink
    match ← entry.path.metadata.toBaseIO with
    | .error _ => pure ()
    | .ok metadata =>
      if metadata.type == .file then
        let content ← IO.FS.readBinFile entry.path
        found := found.push (inner, .file content.toList)
      else if metadata.type == .dir && !isLink then
        found ← readBelow (found.push (inner, .directory)) inner
  return found

/-- Removes what stands at a place. -/
def removeAt (place : Path.Place) : Tree.Node → IO Unit
  | .file _ => IO.FS.removeFile (fileName place)
  | .directory => IO.FS.removeDirAll (fileName place)

/-- Makes the changes that lead from one tree to another. What lies deeper is removed first. -/
def makeChanges (before after : Tree) : IO Unit := do
  for (place, node) in before.entries.reverse do
    if (after.find? place).isNone then removeAt place node
  for (place, node) in after.entries do
    if Tree.here.isPrefixOf place then
      match node, before.find? place with
      | .directory, none => IO.FS.createDirAll (fileName place)
      | .directory, some _ => pure ()
      | .file new, some (.file old) =>
        if new != old then IO.FS.writeBinFile (fileName place) ⟨new.toArray⟩
      | .file new, _ => IO.FS.writeBinFile (fileName place) ⟨new.toArray⟩

/-- The variables of the environment that set something. -/
def readEnvironment : IO (List (Text × Text)) :=
  (Settings.names.map Settings.variableOf).filterMapM fun name => do
    let value ← IO.getEnv (String.ofList name)
    return value.map fun value => (name, value.toList)

/-- Prints what a command says. -/
def printReply (reply : Reply) : IO Unit := do
  IO.print (String.ofList reply.output)
  IO.eprint (String.ofList reply.report)
  if reply.exit = 2 then IO.eprintln usage
  if let some failure := reply.failure then
    IO.eprintln ("Unexpected failure: " ++ String.ofList failure.message)

end GuidedMigration.CommandLine

open GuidedMigration in
/-- Runs the command that the arguments give on the working directory. -/
def main (arguments : List String) : IO UInt32 := do
  let before : Tree := ⟨(← CommandLine.readBelow #[] Tree.here).toList⟩
  let environment ← CommandLine.readEnvironment
  let now := (← Std.Time.PlainDateTime.now).format "uuuu-MM-dd HH:mm:ss"
  let identity := Run.identityOf (← IO.getRandomBytes 16).toList
  let (reply, after) := CommandLine.run ⟨environment, now.toList, identity⟩ before
    (arguments.map String.toList)
  CommandLine.makeChanges before after
  CommandLine.printReply reply
  return reply.exit.toUInt32
