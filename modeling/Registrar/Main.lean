import Registrar.CommandLine.Run

/-!
# The command

The run of the command is a function on file trees. Here it is given the part of the file system
that a command line names, and what it changed is written back.
-/

namespace Registrar.CommandLine

/-- The text of a place in the file system. -/
def placeText (place : Files.Place) : String :=
  "/" ++ "/".intercalate place

/-- What stands at a place of the file system. A file whose content is no text is taken as empty. -/
def nodeAt (place : Files.Place) : IO (Option Files.Node) := do
  let path := (← IO.currentDir).join (placeText place)
  if ← path.isDir then return some .directory
  else if ← path.pathExists then
    let content ← try IO.FS.readFile path catch _ => pure ""
    return some (.file content)
  else return none

/-- The places on the way to a place, itself included. -/
def placesTo (place : Files.Place) : List Files.Place :=
  (List.range place.length).map fun n => place.take (n + 1)

/-- The places that a run may look at: all paths that are named, with the directories on the way,
and whatever stands in the directory of generated files. -/
def placesOf (current : Files.Route) (invocation : Invocation) : IO (List Files.Place) := do
  let output := (resolve current invocation.output).parts
  let generated := output ++ ["_schemas"]
  let config := invocation.options.config.toList.map fun path => (resolve current path).parts
  let input := (resolve current invocation.path).parts
  let directory := (← IO.currentDir).join (placeText generated)
  let present ←
    if ← directory.isDir then
      pure ((← directory.readDir).toList.map fun item => generated ++ [item.fileName])
    else pure []
  return ((input :: generated :: config).flatMap placesTo ++ present).eraseDups

/-- The file tree at some places. -/
def treeAt (places : List Files.Place) : IO Files.Tree := do
  let entries ← places.filterMapM fun place => do
    return (← nodeAt place).map fun node => (place, node)
  return ⟨entries⟩

/-- Write what a run changed: directories, and files in one step each. -/
def writeBack (before after : Files.Tree) : IO Unit := do
  for (place, node) in after.entries do
    if before.node? place ≠ some node then
      match node with
      | .directory => IO.FS.createDirAll (placeText place)
      | .file content => do
          let unfinished := placeText (place.dropLast ++ ["." ++ place.getLastD "" ++ ".tmp"])
          IO.FS.writeFile unfinished content
          IO.FS.rename unfinished (placeText place)
      | .link _ => pure ()

/-- Print what a run logged and how it ended. -/
def report (outcome : Outcome) : IO Unit := do
  for line in outcome.log do
    IO.eprintln line
  match outcome.ending with
  | .finished message => IO.println message
  | .failed message => IO.eprintln ("Error: " ++ message)
  | .broken fault => IO.eprintln (fault.text?.getD "The input is malformed.")
  | .helped => IO.println "Usage: [OPTIONS] PATH OUTPUT"
  | .misused => IO.eprintln "Usage: [OPTIONS] PATH OUTPUT"

/-- Run the command in the current directory. -/
def execute (arguments : List String) : IO UInt32 := do
  let current : Files.Route := .ofText (← IO.currentDir).toString
  let tree ←
    match Invocation.named? arguments with
    | some invocation => treeAt (← placesOf current invocation)
    | none => pure ⟨[]⟩
  let outcome := run tree current arguments
  writeBack tree outcome.tree
  report outcome
  return outcome.ending.exitCode.toUInt32

end Registrar.CommandLine

/-- Run the command. -/
def main (arguments : List String) : IO UInt32 :=
  Registrar.CommandLine.execute arguments
