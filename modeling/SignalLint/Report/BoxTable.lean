import SignalLint.Report.Console
import SignalLint.Report.Markup

/-!
# Tables in boxes

A table with a line around it, a heavy one around the headings. A column is as wide as its widest
cell and one blank on each side. Cells and titles are marked-up texts; a cell may have several
lines. With that, `Console.unstyled` is a console for terminals that draw in no colours.
-/

namespace SignalLint

/-- A line of a cell filled up to a width. -/
def Alignment.fill (a : Alignment) (width : Nat) (s : String) : String :=
  let blanks (n : Nat) : String := String.ofList (List.replicate n ' ')
  let excess := width - textWidth s
  match a with
  | left => s ++ blanks excess
  | right => blanks excess ++ s
  | center => blanks (excess / 2) ++ s ++ blanks (excess - excess / 2)

/-- The characters of a horizontal line. -/
structure BoxLine where
  start : String
  stroke : Char
  cross : String
  stop : String
  deriving Repr, Inhabited

namespace BoxLine

/-- The line above the headings. -/
def top : BoxLine := ⟨"┏", '━', "┳", "┓"⟩

/-- The line below the headings. -/
def belowHeadings : BoxLine := ⟨"┡", '━', "╇", "┩"⟩

/-- The line below the last row. -/
def bottom : BoxLine := ⟨"└", '─', "┴", "┘"⟩

/-- The line across columns of some widths. -/
def draw (l : BoxLine) (widths : List Nat) : String :=
  let strokes := widths.map fun w => String.ofList (List.replicate (w + 2) l.stroke)
  l.start ++ String.intercalate l.cross strokes ++ l.stop

end BoxLine

namespace BoxTable

/-- A column as it is drawn: the cells as lists of lines, that of the heading first. -/
structure DrawnColumn where
  alignment : Alignment
  cells : List (List String)

namespace DrawnColumn

/-- The width of the widest line. -/
def width (c : DrawnColumn) : Nat := c.cells.flatten.foldl (fun n line => max n (textWidth line)) 0

/-- A line of a cell, filled up to the width of the column. -/
def line (c : DrawnColumn) (row n : Nat) : String :=
  c.alignment.fill c.width (((c.cells[row]?).bind (·[n]?)).getD "")

end DrawnColumn

/-- The lines of a marked-up text. -/
def lines? (s : String) : Except StrayTag (List String) :=
  (Markup.shown? s).map fun s => s.splitOn "\n"

/-- The columns with their cells. -/
def drawnColumns (t : BoxTable) : Except StrayTag (List DrawnColumn) :=
  t.columns.zipIdx.mapM fun (column, i) => do
    let cells ← (column.heading :: t.rows.map fun row => row.getD i "").mapM lines?
    return ⟨column.alignment, cells⟩

/-- The lines of a row between two edges. -/
def rowLines (columns : List DrawnColumn) (edge : String) (row : Nat) : List String :=
  let height := columns.foldl (fun n c => max n ((c.cells.getD row []).length)) 0
  (List.range height).map fun n =>
    let cells := columns.map fun c => " " ++ c.line row n ++ " "
    edge ++ String.intercalate edge cells ++ edge

/-- The lines of the whole table. -/
def draw (t : BoxTable) : Except StrayTag (List String) := do
  let columns ← t.drawnColumns
  let widths := columns.map DrawnColumn.width
  let total := widths.foldl (fun n w => n + (w + 3)) 1
  let title ← if t.title.isEmpty then pure [] else lines? t.title
  return title.map (Alignment.left.fill total) ++ [BoxLine.top.draw widths] ++
    rowLines columns "┃" 0 ++ [BoxLine.belowHeadings.draw widths] ++
    (List.range t.rows.length).flatMap (fun row => rowLines columns "│" (row + 1)) ++
    [BoxLine.bottom.draw widths]

end BoxTable

/-- A problem with a tag, for whoever does not look at tags. -/
def StrayTag.toProblem (t : StrayTag) : ConsoleProblem := ⟨t.message⟩

/-- A console that draws in no colours. -/
def Console.unstyled : Console where
  text s := (Markup.shown? s).mapError StrayTag.toProblem
  table t := t.draw.mapError StrayTag.toProblem

end SignalLint
