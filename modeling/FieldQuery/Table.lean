import FieldQuery.Text
import FieldQuery.Unicode.TextWidth
set_option autoImplicit false

namespace FieldQuery.Table

structure Rule where
  left : Char
  fill : Char
  cross : Char
  right : Char
  deriving DecidableEq, Repr

def topRule : Rule := ⟨'┌', '─', '┬', '┐'⟩
def headerRule : Rule := ⟨'╞', '═', '╪', '╡'⟩
def bottomRule : Rule := ⟨'└', '─', '┴', '┘'⟩

def side : Char := '│'
def divider : Char := '┆'

abbrev Row := List Text

def cellLines (cell : Text) : List Text := cell.splitOn '\n'

def cellWidth (cell : Text) : Nat :=
  (cellLines cell).foldl (fun w line => max w (Unicode.textWidth line)) 0

def rowHeight (row : Row) : Nat :=
  row.foldl (fun h cell => max h (cellLines cell).length) 0

/-- The widths of the columns, where `rows` all have as many cells as `widths`. -/
def columnWidths (columns : Nat) (rows : List Row) : List Nat :=
  rows.foldl (fun widths row => List.zipWith (fun w cell => max w (cellWidth cell)) widths row)
    (List.replicate columns 0)

def drawRule (rule : Rule) (widths : List Nat) : Text :=
  [rule.left] ++ [rule.cross].intercalate (widths.map fun w => List.replicate (w + 2) rule.fill)
    ++ [rule.right]

def drawCellLine (width : Nat) (line : Text) : Text :=
  [' '] ++ line ++ List.replicate (width - Unicode.textWidth line) ' ' ++ [' ']

def drawRowLine (widths : List Nat) (row : Row) (i : Nat) : Text :=
  let parts := List.zipWith (fun w cell => drawCellLine w ((cellLines cell)[i]?.getD [])) widths row
  [side] ++ [divider].intercalate parts ++ [side]

def drawRow (widths : List Nat) (row : Row) : List Text :=
  (List.range (rowHeight row)).map (drawRowLine widths row)

def draw (header : Row) (rows : List Row) : Text :=
  let widths := columnWidths header.length (header :: rows)
  ['\n'].intercalate ([drawRule topRule widths] ++ drawRow widths header
    ++ [drawRule headerRule widths] ++ rows.flatMap (drawRow widths)
    ++ [drawRule bottomRule widths])

end FieldQuery.Table
