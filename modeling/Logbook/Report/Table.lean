import Logbook.Report.Style
import Logbook.Text.Lines
import Logbook.Text.Width

/-!
# Tables

A table in a frame of lines, as wide as its cells. A cell may have several lines. Off a terminal no
cell has a style; on a terminal the header is bold, and a table that is too wide is fitted to the
terminal.

* `Frame`: the characters of one horizontal line of the frame;
* `columnWidths`: the width of each column;
* **`tableText`**: the table of a header and some rows, as wide as its cells;
* `Outlet`: where a report is printed, and how tables are written there.
-/

namespace Logbook.Report

/-- The characters of a horizontal line: its ends, its crossings and the line itself. -/
structure Frame where
  left : Char
  line : Char
  crossing : Char
  right : Char

/-- The upper edge. -/
def topFrame : Frame := ⟨'┌', '─', '┬', '┐'⟩

/-- The line below the header. -/
def headerFrame : Frame := ⟨'╞', '═', '╪', '╡'⟩

/-- The line between two rows. -/
def rowFrame : Frame := ⟨'├', '╌', '┼', '┤'⟩

/-- The lower edge. -/
def bottomFrame : Frame := ⟨'└', '─', '┴', '┘'⟩

/-- A cell by its lines. -/
abbrev Cell := List (List Char)

/-- The cell of a text. -/
def Cell.ofText (s : String) : Cell := Text.pieces '\n' s.toList

/-- The columns of the widest line of a cell. -/
def Cell.width (c : Cell) : Nat := (c.map Text.columns).foldl max 0

/-- The widths of the columns of a table. -/
def columnWidths (header : List Cell) (rows : List (List Cell)) : List Nat :=
  rows.foldl (fun ws r => List.zipWith max ws (r.map Cell.width)) (header.map Cell.width)

/-- A horizontal line of the frame. -/
def Frame.text (f : Frame) (widths : List Nat) : List Char :=
  f.left :: ([f.crossing].intercalate (widths.map fun w => List.replicate (w + 2) f.line)
    ++ [f.right])

/-- A text with spaces behind it up to a width. -/
def fill (width : Nat) (cs : List Char) : List Char :=
  cs ++ List.replicate (width - Text.columns cs) ' '

/-- Line `i` of a cell with a space on either side; a cell without such a line stays blank. -/
def cellSpan (style : Style) (width i : Nat) (c : Cell) : Span :=
  { text := ' ' :: (fill width (c.getD i []) ++ [' ']), style }

/-- Line `i` of a row whose cells have a style. -/
def rowLine (style : Style) (widths : List Nat) (row : List Cell) (i : Nat) : List Char :=
  '│' :: (['┆'].intercalate
    (List.zipWith (fun w c => (cellSpan style w i c).render true) widths row) ++ ['│'])

/-- The lines of a row. -/
def rowLines (style : Style) (widths : List Nat) (row : List Cell) : List (List Char) :=
  (List.range ((row.map List.length).foldl max 0)).map (rowLine style widths row)

/-- The lines of a table whose header has a style. -/
def tableLines (style : Style) (header : List Cell) (rows : List (List Cell)) : List (List Char) :=
  let widths := columnWidths header rows
  topFrame.text widths :: rowLines style widths header ++ headerFrame.text widths
    :: [rowFrame.text widths].intercalate (rows.map (rowLines {} widths))
    ++ [bottomFrame.text widths]

/-- A way to write the table of a header and some rows. -/
abbrev TableWriter := List String → List (List String) → List Char

/-- **The table of a header and some rows**, the header in a style. -/
def tableText (style : Style) : TableWriter := fun header rows =>
  ['\n'].intercalate
    (tableLines style (header.map Cell.ofText) (rows.map (List.map Cell.ofText)))

/-! ## Where a table is written -/

/-- Where a report is printed. A terminal has a way of its own to write tables, since it breaks the
lines of cells for which it has no room. -/
inductive Outlet where
  | pipe
  | terminal (tables : TableWriter)

namespace Outlet

/-- A terminal with room for the tables of a report. -/
def wideTerminal : Outlet := .terminal (tableText { emphasis := some .bold })

/-- Whether a report is printed on a terminal. -/
def isTerminal : Outlet → Bool
  | .pipe => false
  | .terminal _ => true

/-- How tables are written. -/
def tables : Outlet → TableWriter
  | .pipe => tableText {}
  | .terminal tables => tables

end Outlet

end Logbook.Report
