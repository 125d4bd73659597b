import FieldQuery.Text
set_option autoImplicit false

/-! Absolute paths as they are written. Empty pieces and single dots are kept for display and mean
nothing; double dots are kept too, and only the file tree says where they lead. -/

namespace FieldQuery

/-- The pieces between the slashes, the innermost first. -/
structure Path where
  pieces : List Text
  deriving DecidableEq, Repr

namespace Path

def root : Path := ⟨[]⟩

def ofText? : Text → Option Path
  | '/' :: rest => some ⟨(rest.splitOn '/').reverse⟩
  | _ => none

def toText (path : Path) : Text := ['/'] ++ ['/'].intercalate path.pieces.reverse

/-- Puts a name behind a path; a slash at the end of the path is not doubled. -/
def join (path : Path) (name : Text) : Path :=
  match path.pieces with
  | [] :: outer => ⟨name :: outer⟩
  | pieces => ⟨name :: pieces⟩

def isBlank (piece : Text) : Bool := piece.isEmpty || piece = ['.']

/-- The paths above the given pieces, read off the text alone. -/
def above : List Text → List Path
  | [] => []
  | piece :: outer =>
    if isBlank piece then above outer else ⟨outer.dropWhile isBlank⟩ :: above outer

def ancestors (path : Path) : List Path := path :: above path.pieces

def parent? (path : Path) : Option Path := (above path.pieces).head?

/-- The pieces that mean something. -/
def names (path : Path) : List Text := path.pieces.filter (!isBlank ·)

/-- Whether two paths are written alike, blank pieces apart. -/
def same (a b : Path) : Bool := a.names = b.names

end Path

end FieldQuery
