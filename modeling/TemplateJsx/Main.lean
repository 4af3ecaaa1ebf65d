import TemplateJsx.Command.Run

/-
  This file connects the commands to the machine: the files
  that a command line may need are loaded, the command is
  carried out, and what it changed is written back.

  Key definitions include:
    * `Machine.load`
    * `Machine.store`
    * `main`
-/

------------------------------------------------------------
-- Loading
------------------------------------------------------------

namespace TemplateJsx

namespace Machine

open Project

/- The path by which the machine knows a place. -/
def pathTo (p : Place) : String :=
  Address.print ⟨.root, p⟩

/- What a place holds, nothing if it cannot be read. -/
def entry? (p : Place) : IO (Option FileEntry) := do
  try
    let place ← IO.FS.realPath (pathTo p)
    if ← place.isDir then
      return some .directory
    else
      return some (.file (← IO.FS.readFile place))
  catch _ =>
    return none

/- A tree with one more entry, if there is a place for it. -/
def withEntry
    (tree : FileTree)
    (directory : Place)
    (name : String)
    (entry : FileEntry) : FileTree :=
  (tree.insert directory name entry).toOption.getD tree

/- Load what stands on the way down from a place. -/
def loadDown
    (tree : FileTree)
    (p : Place) : List String → IO FileTree
  | [] => return tree
  | name :: rest => do
      match ← entry? (p ++ [name]) with
      | some entry =>
          loadDown (withEntry tree p name entry) (p ++ [name]) rest
      | none => return tree

/- Load what stands along a path. -/
def loadPath (tree : FileTree) (path : String) : IO FileTree := do
  let mut loaded := tree
  let mut place := tree.locate (startOf path)
  loaded ← loadDown loaded [] place
  for component in components path do
    place := advance place component
    loaded ← loadDown loaded [] place
  return loaded

/-
  Load what a directory holds. Only templates are read, and
  directories without templates are not entered.
-/
partial def loadBelow
    (tree : FileTree)
    (directory : Place) : IO FileTree := do
  let mut loaded := tree
  let origin ← IO.FS.realPath (pathTo directory)
  for item in ← origin.readDir do
    let name := item.fileName
    if ← item.path.isDir then
      loaded := withEntry loaded directory name .directory
      if name ∉ skippedNames then
        loaded ← loadBelow loaded (directory ++ [name])
    else if (Component.baseName? name).isSome then
      loaded ← loadDown loaded directory [name]
    else
      loaded := withEntry loaded directory name (.file "")
  return loaded

/- Load a directory by its path, if it is one. -/
def loadDirectory
    (tree : FileTree)
    (path : String) : IO FileTree := do
  let loaded ← loadPath tree path
  match loaded.find path with
  | .ok (place, .directory) => loadBelow loaded place
  | _ => return loaded

/- The tree of a working directory before anything is loaded. -/
def unloaded : IO FileTree := do
  let here ← IO.currentDir
  let home := (components here.toString).filter (· ≠ "")
  return { FileTree.empty with home }

/- Load the files that a command line may need. -/
def load (arguments : List String) : IO FileTree := do
  let tree ← unloaded
  match Command.parse arguments with
  | .ok (s, .transform path) =>
      loadPath (← loadPath tree s.config) path
  | .ok (s, .compile root) =>
      let withConfig ← loadPath tree s.config
      let withRoot ← loadDirectory withConfig root
      loadDirectory withRoot (outputDirectory root s.out)
  | _ => return tree

/- All of the input, after what has been read. -/
partial def readInput (read : String) : IO String := do
  let line ← (← IO.getStdin).getLine
  if line.isEmpty then
    return read
  else
    readInput (read ++ line)

/- The input, if a command line reads it. -/
def inputFor (arguments : List String) : IO String :=
  match Command.parse arguments with
  | .ok (_, .transform "-") => readInput ""
  | _ => return ""

------------------------------------------------------------
-- Storing
------------------------------------------------------------

/- Write what is in a tree and was not in the one before. -/
def store (before after : FileTree) : IO Unit := do
  for (p, entry) in after.entries do
    if before.get? p ≠ some entry then
      match entry with
      | .directory => IO.FS.createDirAll (pathTo p)
      | .file content => IO.FS.writeFile (pathTo p) content

end Machine

end TemplateJsx

------------------------------------------------------------
-- Program
------------------------------------------------------------

open TemplateJsx in
/- Carry out a command line on the machine. -/
def main (arguments : List String) : IO UInt32 := do
  let tree ← Machine.load arguments
  let input ← Machine.inputFor arguments
  let result := Command.run arguments input tree
  Machine.store tree result.tree
  IO.print result.output
  IO.eprint result.notes
  match result.error with
  | none => return 0
  | some error =>
      IO.eprintln
        (Component.compilerName ++ ": " ++ error.message)
      return 1
