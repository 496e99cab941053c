import CaptureFilter.CommandLine.Shown

/-!
# Boxes

Tables and panels drawn with rounded corners. A column is as wide as its widest text asks, but no
narrower than it is asked to be, and a blank stands at either side of each cell. A panel fills the
terminal.
Spec guidance: `SPEC_FULL.md` §D (`print_attributes`, `print_expression`).
-/

namespace CaptureFilter.CommandLine

/-- A row of one character. -/
def bar (c : Char) (width : Nat) : List Char := List.replicate width c

/-- A line at the left of a field. -/
def atLeft (width : Nat) (s : List Char) : List Char := s ++ bar ' ' (width - room s)

/-- A line in the middle of a field that is otherwise filled with a character; of an odd rest the
greater half is behind it. -/
def inMiddle (fill : Char) (width : Nat) (s : List Char) : List Char :=
  let rest := width - s.length
  bar fill (rest / 2) ++ s ++ bar fill (rest - rest / 2)

/-- A column of a table. -/
structure Column where
  /-- The heading. -/
  heading : String
  /-- The least width of its cells. -/
  least : Nat := 0
  /-- Whether its cells stand in the middle. -/
  centred : Bool := false
  deriving DecidableEq, Repr

/-- The text of a cell. -/
abbrev Cell := List Char

namespace Column

/-- The cell of a column's heading. -/
def headingCell (column : Column) : Cell := column.heading.toList

/-- The width of a column with these cells. -/
def width (column : Column) (cells : List Cell) : Nat :=
  ((column.headingCell :: cells).map roomAsked).foldl max column.least

/-- A line of a cell with a blank at either side. -/
def place (column : Column) (width : Nat) (s : List Char) : List Char :=
  ' ' :: (if column.centred then inMiddle ' ' width s else atLeft width s) ++ [' ']

end Column

/-- The horizontal rule of a table, from its left end, its crossings and its right end. -/
def rule (left crossing right : Char) (widths : List Nat) : List Char :=
  left :: [crossing].intercalate (widths.map fun width ↦ bar '─' (width + 2)) ++ [right]

/-- The lines of a row. -/
def rowLines (columns : List (Column × Nat)) (cells : List Cell) : List (List Char) :=
  let filled := (columns.zip cells).map fun ((column, width), cell) ↦
    (shownLines width cell).map (column.place width)
  let blank := columns.map fun (column, width) ↦ column.place width []
  let height := (filled.map List.length).foldl max 0
  (List.range height).map fun i ↦
    let places := (filled.zip blank).map fun (lines, blank) ↦ (lines[i]?).getD blank
    '│' :: ['│'].intercalate places ++ ['│']

/-- A table with its title above it. -/
def table (title : String) (columns : List Column) (rows : List (List Cell)) : List (List Char) :=
  let widths := columns.mapIdx fun i column ↦ column.width (rows.filterMap (·[i]?))
  let measured := columns.zip widths
  let top := rule '╭' '┬' '╮' widths
  [inMiddle ' ' top.length title.toList, top] ++
    rowLines measured (columns.map Column.headingCell) ++
    [rule '├' '┼' '┤' widths] ++ (rows.map (rowLines measured)).flatten ++
    [rule '╰' '┴' '╯' widths]

/-- The width of the terminal. -/
def terminalWidth : Nat := 200

/-- The upper or lower edge of a panel with a title in it. -/
def edge (left right : Char) (title : String) : List Char :=
  [left, '─'] ++ inMiddle '─' (terminalWidth - 4) (' ' :: title.toList ++ [' ']) ++ ['─', right]

/-- The width of the text in a panel. -/
def panelWidth : Nat := terminalWidth - 6

/-- A line of a panel. -/
def panelLine (s : List Char) : List Char :=
  [('│'), ' ', ' '] ++ atLeft panelWidth s ++ [' ', ' ', '│']

/-- A panel with a title in either edge and an empty line above and below its text. -/
def panel (title subtitle : String) (body : List Char) : List (List Char) :=
  [edge '╭' '╮' title] ++
    ([[]] ++ shownLines panelWidth body ++ [[]]).map panelLine ++ [edge '╰' '╯' subtitle]

end CaptureFilter.CommandLine
