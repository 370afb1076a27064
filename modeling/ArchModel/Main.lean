import ArchModel.CommandLine.Host
import ArchModel.CommandLine.Run

/-!
# The program

The outer layer of the program: it reads the files that a run may look at into a tree, runs the
program on it, and prints and saves what comes out.

Files are read that may be sources or configurations; of all others the name alone is taken over.
-/

namespace ArchModel

open Text

/-- Whether the contents of a file of a name may matter. -/
def mayMatter (name : String) : Bool :=
  endsWith ".py" name || (containerFiles ++ workspaceFiles).contains name

/-- The bytes of the file of a name on disk, if it can be read. -/
def bytesOnDisk? (name : String) : IO (Option (List UInt8)) := do
  try return some (← IO.FS.readBinFile name).toList
  catch _ => return none

/-- The full path of what stands on disk under a name. -/
def pathOnDisk? (name : String) : IO (Option Path) := do
  try return some (Path.join {} (← IO.FS.realPath name).toString)
  catch _ => return none

/-- Take the entries of a directory on disk over into a tree. Links to directories are not
followed. -/
partial def takeDirectory (t : Tree) (dir : Path) : IO Tree := do
  let mut t := t.makeDir dir
  for entry in ← (← IO.FS.realPath dir.text).readDir do
    let p := dir.child entry.fileName
    match (← entry.path.symlinkMetadata).type with
    | .dir => unless ignoredDirs.contains entry.fileName do t ← takeDirectory t p
    | _ =>
      if mayMatter entry.fileName then
        if let some bytes ← bytesOnDisk? p.text then t := t.write p bytes
      else t := t.write p []
  return t

/-- Take what stands on disk under a name over into a tree, with the directory around a file. -/
def takeName (t : Tree) (name : String) : IO Tree := do
  let some p ← pathOnDisk? name | return t
  if ← (← IO.FS.realPath name).isDir then takeDirectory t p
  else
    let t ← takeDirectory t p.parent
    match ← bytesOnDisk? p.text with
    | some bytes => return t.write p bytes
    | none => return t

/-- The tree that an invocation in a directory may look at: what is around its configuration, around
those of its containers, and the directory of its report. -/
def treeFor (dir : Path) (i : Invocation) : IO Tree := do
  let start := WrittenPath.ofText dir i.path
  let mut t ← takeName (Tree.empty.makeDir dir) start.path.text
  if i.command = .workspace then
    if let .ok config := loadWorkspace .ofRun t start then
      for p in config.containers do t ← takeName t p.text
  if let some name := i.output then
    if let some p ← pathOnDisk? (dir.join name).parent.text then t := t.makeDir p
  return t

/-- Print what a run leaves behind, and save its file. -/
def finish (o : ProgramOutcome) : IO UInt32 := do
  IO.eprint o.errors
  if let some (p, text) := o.saved then IO.FS.writeFile p.text text
  IO.print o.output
  return o.status.toUInt32

/-- The wording for a run that breaks off. -/
def RunFailure.message : RunFailure → String
  | .save e | .analysis (.load (.read e)) => e.message
  | .noFile => "There is no file to save the report in"
  | .analysis _ => "The configuration holds a value of no use"

end ArchModel

open ArchModel

/-- The program. -/
def main (line : List String) : IO UInt32 := do
  let dir := Path.join {} (← IO.currentDir).toString
  let tree ← match Invocation.ofArguments line with
    | .ok i => treeFor dir i
    | .error _ => pure .empty
  match runProgram .ofRun tree dir line with
  | .ok o => finish o
  | .error f =>
    IO.eprintln (programName ++ ": " ++ f.message)
    return 1
