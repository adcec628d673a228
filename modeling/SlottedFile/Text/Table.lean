import SlottedFile.Fault
import SlottedFile.Text.Lines
import SlottedFile.Text.Width

/-!
# Tables

A table is drawn with a frame around every cell. The cells of a column are as
wide as the widest line in it and stand at its left, with a blank on either
side; a cell of several lines makes its row as high.
-/

namespace SlottedFile.Text

/-! ## Cells -/

/-- **A line and the columns it takes.** -/
structure Line where
  text : String
  width : Nat
  deriving DecidableEq, Repr

/-- **What stands in a cell**, line by line. -/
structure Cell where
  lines : List Line
  deriving DecidableEq, Repr

namespace Cell

/-- The cell with a text in it. It overruns at a line whose columns come out
below zero. -/
def ofString (s : String) : Except Overrun Cell := do
  let lines ← (Text.lines s).mapM fun text =>
    match Width.ofString? text with
    | some width => .ok { text, width : Line }
    | none => .error .number
  return { lines }

/-- The width of a cell, which is that of its widest line. -/
def width (cell : Cell) : Nat := (cell.lines.map (·.width)).foldl max 0

/-- A line of a cell, filled up with blanks. A cell has as many empty lines at
its end as one asks for. -/
def padded (cell : Cell) (width i : Nat) : String :=
  let line := cell.lines.getD i { text := "", width := 0 }
  line.text ++ String.ofList (List.replicate (width - line.width) ' ')

end Cell

/-- **A row of cells.** -/
abbrev Row := List Cell

/-- The row with a text in every cell. -/
def Row.ofStrings (texts : List String) : Except Overrun Row := texts.mapM Cell.ofString

/-! ## Tables -/

/-- **A table.** Every row has a cell under each title. -/
structure Table where
  titles : Row
  rows : List Row
  deriving DecidableEq, Repr

namespace Table

/-- The widths of the columns. -/
def widths (t : Table) : List Nat :=
  (t.titles :: t.rows).foldl (fun ws row => List.zipWith max ws (row.map Cell.width))
    (t.titles.map fun _ => 0)

/-- A horizontal line across the table, drawn with one character. -/
def rule (c : Char) (widths : List Nat) : String :=
  "+" ++ String.join (widths.map fun w => String.ofList (List.replicate (w + 2) c) ++ "+")

/-- A row, line by line. -/
def drawRow (widths : List Nat) (row : Row) : List String :=
  let height := (row.map (·.lines.length)).foldl max 1
  (List.range height).map fun i =>
    "|" ++ String.join (List.zipWith (fun w cell => " " ++ cell.padded w i ++ " |") widths row)

/-- **The lines of a table.** The titles stand between a thin and a double line,
and a thin line follows every row; a table without rows is closed by one, too. -/
def draw (t : Table) : List String :=
  let ws := t.widths
  let thin := rule '-' ws
  let body := if t.rows.isEmpty then [thin] else t.rows.flatMap fun row => drawRow ws row ++ [thin]
  [thin] ++ drawRow ws t.titles ++ [rule '=' ws] ++ body

end Table

end SlottedFile.Text
