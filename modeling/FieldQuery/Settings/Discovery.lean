import FieldQuery.FileTree
import FieldQuery.Settings.Layer
set_option autoImplicit false

/-! Which settings files count for a directory, and the settings they make up. The files of the
directory and of those above it come first, the closest at the front, and the search ends with a
file that declares itself the root. The file in the home directory comes last, unless a root was
found. -/

namespace FieldQuery

inductive LoadFault where
  | unreadable (path : Path) (fault : FileFault)
  | malformed (path : Path)
  deriving DecidableEq, Repr

namespace LoadFault

def malformedDetail : Text := "not a settings document".toList

def message : LoadFault → Text
  | .unreadable path fault =>
    "failed to read config file ".toList ++ path.toText ++ [':', ' '] ++ fault.message
  | .malformed path =>
    "failed to parse config file ".toList ++ path.toText ++ [':', ' '] ++ malformedDetail

end LoadFault

namespace Config

def fileName : Text := ".qs.toml".toList

def fileIn (directory : Path) : Path := directory.join fileName

def readLayer (tree : FileTree) (path : Path) : Except LoadFault Layer :=
  match tree.readText path with
  | .error fault => .error (.unreadable path fault)
  | .ok text =>
    match Layer.ofToml? text with
    | some layer => .ok layer
    | none => .error (.malformed path)

/-- Whether a file ends the search. A broken one does not. -/
def isRootFile (tree : FileTree) (path : Path) : Bool :=
  match readLayer tree path with
  | .ok layer => layer.root = some true
  | .error _ => false

/-- The settings files of some directories up to the first root file, and whether there is one. -/
def filesIn (tree : FileTree) : List Path → List Path × Bool
  | [] => ([], false)
  | directory :: directories =>
    let file := fileIn directory
    if tree.isFile file then
      if isRootFile tree file then ([file], true)
      else
        let (files, rootFound) := filesIn tree directories
        (file :: files, rootFound)
    else filesIn tree directories

def isGlobal (home path : Path) : Bool := path.same (fileIn home)

def discover (tree : FileTree) (home directory : Path) : List Path :=
  let (files, rootFound) := filesIn tree directory.ancestors
  if !rootFound && tree.isFile (fileIn home) && !files.any (isGlobal home) then
    files ++ [fileIn home]
  else files

def readLayers (tree : FileTree) : List Path → Except LoadFault (List (Text × Layer))
  | [] => .ok []
  | path :: paths => do
    let layer ← readLayer tree path
    return (path.toText, layer) :: (← readLayers tree paths)

def loadFiles (tree : FileTree) (paths : List Path) : Except LoadFault Config :=
  (readLayers tree paths).map merge

def load (tree : FileTree) (home directory : Path) : Except LoadFault Config :=
  loadFiles tree (discover tree home directory)

end Config

end FieldQuery
