import FieldQuery.Path
import FieldQuery.Text.Utf8
set_option autoImplicit false

namespace FieldQuery

/-- The names on the way to an entry, the innermost first. -/
abbrev Location := List Text

inductive Entry where
  | directory
  | file (bytes : ByteArray)

instance : DecidableEq Entry
  | .directory, .directory => .isTrue rfl
  | .file a, .file b =>
    if h : a.data = b.data then .isTrue (congrArg Entry.file (ByteArray.ext h))
    else .isFalse fun e => h (congrArg ByteArray.data (Entry.file.inj e))
  | .directory, .file _ => .isFalse Entry.noConfusion
  | .file _, .directory => .isFalse Entry.noConfusion

/-- At most one entry is listed for each location; the root is always a directory. -/
structure FileTree where
  entries : List (Location × Entry)
  deriving DecidableEq

inductive FileFault where
  | notFound | notADirectory | isADirectory | notUtf8
  deriving DecidableEq, Repr

def FileFault.message : FileFault → Text
  | .notFound => "No such file or directory (os error 2)".toList
  | .notADirectory => "Not a directory (os error 20)".toList
  | .isADirectory => "Is a directory (os error 21)".toList
  | .notUtf8 => "stream did not contain valid UTF-8".toList

namespace FileTree

def empty : FileTree := ⟨[]⟩

def listed? (location : Location) : List (Location × Entry) → Option Entry
  | [] => none
  | (l, entry) :: entries => if l = location then some entry else listed? location entries

def entry? (tree : FileTree) : Location → Option Entry
  | [] => some .directory
  | name :: outer =>
    if tree.entry? outer = some .directory then listed? (name :: outer) tree.entries else none

def put (location : Location) (entry : Entry) :
    List (Location × Entry) → List (Location × Entry)
  | [] => [(location, entry)]
  | (l, old) :: entries =>
    if l = location then (location, entry) :: entries
    else (l, old) :: put location entry entries

def insert (tree : FileTree) (location : Location) (entry : Entry) : FileTree :=
  ⟨put location entry tree.entries⟩

def makeDirectory (tree : FileTree) : Location → FileTree
  | [] => tree
  | name :: outer => (tree.makeDirectory outer).insert (name :: outer) .directory

def files (tree : FileTree) : List (Location × ByteArray) :=
  tree.entries.filterMap fun (location, entry) =>
    match entry with
    | .directory => none
    | .file bytes => some (location, bytes)

/-- Where the pieces of a path lead. The last one may name an entry that is not there. -/
def locate (tree : FileTree) : List Text → Except FileFault Location
  | [] => .ok []
  | piece :: outer => do
    let location ← tree.locate outer
    match tree.entry? location with
    | none => .error .notFound
    | some (.file _) => .error .notADirectory
    | some .directory =>
      if Path.isBlank piece then .ok location
      else if piece = ['.', '.'] then .ok location.tail
      else .ok (piece :: location)

def lookup (tree : FileTree) (path : Path) : Except FileFault Entry := do
  match tree.entry? (← tree.locate path.pieces) with
  | some entry => .ok entry
  | none => .error .notFound

def hasEntry (tree : FileTree) (path : Path) : Bool := (tree.lookup path).isOk

def isFile (tree : FileTree) (path : Path) : Bool :=
  match tree.lookup path with
  | .ok (.file _) => true
  | _ => false

def readText (tree : FileTree) (path : Path) : Except FileFault Text := do
  match ← tree.lookup path with
  | .directory => .error .isADirectory
  | .file bytes =>
    match Text.ofBytes? bytes with
    | some text => .ok text
    | none => .error .notUtf8

def writeText (tree : FileTree) (path : Path) (text : Text) : Except FileFault FileTree := do
  let location ← tree.locate path.pieces
  match tree.entry? location with
  | some .directory => .error .isADirectory
  | _ => .ok (tree.insert location (.file text.toBytes))

end FileTree

end FieldQuery
