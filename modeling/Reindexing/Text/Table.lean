import Reindexing.Text.Search
import Reindexing.Text.Width

/-!
# Tables

Tables with rounded corners. A column is as wide as its widest line, and every
cell is padded on the right, with a blank on either side. A cell may have several
lines; a row is as high as its highest cell.
-/
namespace Reindexing.Text

/-- The lines of a cell. -/
def cellLines (cell : String) : List String := (splitAt (· == '\n') cell.toList).map String.ofList

def cellWidth (cell : String) : Nat := ((cellLines cell).map width).max?.getD 0

def padRight (columns : Nat) (s : String) : String := s ++ String.ofList (List.replicate (columns - width s) ' ')

/-- The widths of the columns of rows. -/
def columnWidths : List (List String) → List Nat
  | [] => []
  | [row] => row.map cellWidth
  | row :: rest => List.zipWith max (row.map cellWidth) (columnWidths rest)

/-- A line of a row. -/
def rowLine (widths : List Nat) (cells : List (List String)) (index : Nat) : String :=
  let parts := List.zipWith (fun columns lines => " " ++ padRight columns (lines.getD index "") ++ " ") widths cells
  "│" ++ join "│" parts ++ "│"

/-- The lines of a row. -/
def rowLines (widths : List Nat) (row : List String) : List String :=
  let cells := row.map cellLines
  let height := (cells.map List.length).max?.getD 0
  (List.range height).map (rowLine widths cells)

/-- A horizontal line between two corners. -/
def ruleLine (widths : List Nat) (left middle right : String) : String :=
  let bars := widths.map fun columns => String.ofList (List.replicate (columns + 2) '─')
  left ++ join middle bars ++ right

/-- A table with a header. -/
def table (header : List String) (rows : List (List String)) : String :=
  let widths := columnWidths (header :: rows)
  join "\n" (ruleLine widths "╭" "┬" "╮" :: rowLines widths header ++
    ruleLine widths "├" "┼" "┤" :: rows.flatMap (rowLines widths) ++ [ruleLine widths "╰" "┴" "╯"])

end Reindexing.Text
