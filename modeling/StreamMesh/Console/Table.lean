import StreamMesh.Text.Pieces
import StreamMesh.Text.Width

/-!
# Tables

A table is drawn with lines around its cells. Each column is as wide as its widest line, and a row
as high as its highest cell. The title stands in the middle above the table; it is broken into lines
where the table is narrower than the title.

## Main definitions

* `Column`, `Table` — what is drawn
* `Table.draw` — the lines of a table
-/

namespace StreamMesh

/-- A column with its heading. -/
structure Column where
  heading : String
  /-- Whether cells stand at the right end. -/
  flushRight : Bool
  deriving DecidableEq, Repr

/-- A title, columns, and rows of cells. -/
structure Table where
  title : String
  columns : List Column
  rows : List (List String)
  deriving DecidableEq, Repr

namespace Table

/-- A row of spaces. -/
def spaces (count : Nat) : List Char := List.replicate count ' '

/-- The lines of a cell. -/
def cellLines (cell : String) : List (List Char) := Text.pieces '\n' cell.toList

/-- The columns that a cell takes on the screen. -/
def cellWidth (cell : String) : Nat := ((cellLines cell).map Text.width).foldl max 0

/-- The width of each column, from its heading and its cells. -/
def columnWidths (t : Table) : List Nat :=
  t.rows.foldl (fun widths row => List.zipWith (fun w cell => max w (cellWidth cell)) widths row)
    (t.columns.map fun c => cellWidth c.heading)

/-- A line of a cell with spaces up to a width. -/
def fill (flushRight : Bool) (width : Nat) (line : List Char) : List Char :=
  let missing := spaces (width - Text.width line)
  if flushRight then missing ++ line else line ++ missing

/-- The characters of a line of the frame: left end, stroke, crossing, right end. -/
structure Rule where
  left : Char
  stroke : Char
  crossing : Char
  right : Char

/-- The line above the headings. -/
def topRule : Rule := ⟨'┏', '━', '┳', '┓'⟩

/-- The line below the headings. -/
def headRule : Rule := ⟨'┡', '━', '╇', '┩'⟩

/-- The line below the rows. -/
def bottomRule : Rule := ⟨'└', '─', '┴', '┘'⟩

/-- Texts in one, with a character between them. -/
def joined (separator : Char) : List (List Char) → List Char
  | [] => []
  | [cs] => cs
  | cs :: rest => cs ++ separator :: joined separator rest

/-- A line of the frame over columns of some widths. -/
def Rule.draw (r : Rule) (widths : List Nat) : List Char :=
  r.left :: (joined r.crossing (widths.map fun w => List.replicate (w + 2) r.stroke) ++ [r.right])

/-- A line of a row, with bars between the cells. -/
def drawLine (bar : Char) (cells : List (List Char)) : List Char :=
  bar :: (joined bar (cells.map fun cs => ' ' :: (cs ++ [' '])) ++ [bar])

/-- The lines of a row. -/
def drawRow (bar : Char) (columns : List (Column × Nat)) (cells : List String) : List (List Char) :=
  let height := (cells.map fun c => (cellLines c).length).foldl max 0
  (List.range height).map fun i =>
    drawLine bar (List.zipWith (fun c cell => fill c.1.flushRight c.2 ((cellLines cell).getD i []))
      columns cells)

/-- A line in the middle of some width; of an odd excess the greater part stands at the end. -/
def centred (width : Nat) (line : List Char) : List Char :=
  let before := (width - Text.width line) / 2
  fill false width (spaces before ++ line)

/-- Words set into lines of at most some width, after a line that is begun. -/
def setWords (width : Nat) (line : List Char) : List (List Char) → List (List Char)
  | [] => [line]
  | word :: rest =>
    if Text.width line + 1 + Text.width word ≤ width then
      setWords width (line ++ ' ' :: word) rest
    else line :: setWords width word rest

/-- A title in lines of at most some width. -/
def titleLines (width : Nat) (title : String) : List (List Char) :=
  match Text.pieces ' ' title.toList with
  | [] => []
  | word :: rest => setWords width word rest

/-- The lines of a table. -/
def draw (t : Table) : List String :=
  let widths := t.columnWidths
  let total := widths.foldl (· + ·) 0 + 3 * widths.length + 1
  let columns := t.columns.zip widths
  -- Each column has a space on either side and a bar before it, and one bar ends the line.
  let title := (titleLines total t.title).map (centred total)
  let head := drawRow '┃' columns (t.columns.map Column.heading)
  let body := t.rows.flatMap (drawRow '│' columns)
  (title ++ [topRule.draw widths] ++ head ++ [headRule.draw widths] ++ body
    ++ [bottomRule.draw widths]).map String.ofList

end Table

end StreamMesh
