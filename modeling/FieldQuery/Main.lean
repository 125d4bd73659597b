import FieldQuery.CommandLine.Run
set_option autoImplicit false

/-! The program on a real disk. It copies into a file tree what a run can look at, which is the
directories on the way to the working directory and to the home directory and the settings files in
them. Then it runs the command on the tree and writes back the files that changed. -/

namespace FieldQuery.Disk

def string (text : Text) : String := String.ofList text

def entry? (path : Text) : IO (Option Entry) := do
  let here ← IO.currentDir
  let path := here / string path
  if ← path.isDir then return some .directory
  try
    return some (.file (← IO.FS.readBinFile path))
  catch _ => return none

def copyEntry (tree : FileTree) (location : Location) : IO FileTree := do
  match ← entry? (Path.mk location).toText with
  | some entry => return tree.insert location entry
  | none => return tree

/-- Copies the directories on the way to a path, the outermost first, each with its settings
file. -/
def copyTo (tree : FileTree) (path : Path) : IO FileTree :=
  path.ancestors.reverse.foldlM (fun tree ancestor => do
    match tree.locate ancestor.pieces with
    | .error _ => return tree
    | .ok location => copyEntry (← copyEntry tree location) (Config.fileName :: location)) tree

def writeBack (before after : FileTree) : IO Unit :=
  after.files.forM fun (location, bytes) =>
    if before.entry? location = some (.file bytes) then return ()
    else IO.FS.writeBinFile (string (Path.mk location).toText) bytes

def pathVariable (name : String) : IO Path := do
  let value ← IO.getEnv name
  return (value.bind fun value => Path.ofText? value.toList).getD .root

end FieldQuery.Disk

open FieldQuery in
def main (arguments : List String) : IO UInt32 := do
  let here ← IO.currentDir
  let directory := (Path.ofText? here.toString.toList).getD .root
  let home ← Disk.pathVariable "HOME"
  let logFilter ← IO.getEnv "RUST_LOG"
  let tree ← Disk.copyTo (← Disk.copyTo .empty directory) home
  let outcome := CommandLine.run ⟨tree, directory, home, logFilter.map String.toList⟩
    (arguments.map String.toList)
  try
    Disk.writeBack tree outcome.tree
  catch fault =>
    IO.eprintln (toString fault)
    return 1
  IO.print (Disk.string outcome.stdout)
  IO.eprint (Disk.string outcome.stderr)
  return UInt32.ofNat outcome.status
