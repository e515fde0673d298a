import ScanConsole.Screen.Basic
import ScanConsole.Text.Blank

/-!
# The layout of result screens

Lines stand below each other. The columns of a table are as wide as their widest
cell and two spaces apart, and a rule of dashes stands below the head; blanks at
the end of a row are dropped, those of the rule are kept. A column can be filled
up to `widthLimit` only: a table with a wider one has no layout, and neither has
what it belongs to.
-/

namespace ScanConsole.Screen

def columns (rows : List (List String)) : Nat := (rows.map List.length).foldl max 0

/-- The number of characters of the widest cell of a column. -/
def columnWidth (rows : List (List String)) (column : Nat) : Nat :=
  ((rows.filterMap fun row => row[column]?).map String.length).foldl max 0

def columnWidths (rows : List (List String)) : List Nat :=
  (List.range (columns rows)).map (columnWidth rows)

/-- The greatest width that cells are filled up to. -/
def widthLimit : Nat := 65535

/-- A cell filled up with spaces to a width. -/
def paddedCell (width : Nat) (cell : String) : List Char :=
  cell.toList ++ List.replicate (width - cell.length) ' '

/-- What stands between two columns. -/
def gap : List Char := [' ', ' ']

/-- The cells of a row, each filled up to its width; a missing cell is blank. -/
def paddedCells : List Nat → List String → List (List Char)
  | [], _ => []
  | w :: ws, [] => paddedCell w "" :: paddedCells ws []
  | w :: ws, cell :: row => paddedCell w cell :: paddedCells ws row

def layoutRow (widths : List Nat) (row : List String) : List Char :=
  Text.trimEnd (gap.intercalate (paddedCells widths row))

def layoutRule (widths : List Nat) : List Char :=
  gap.intercalate (widths.map fun w => List.replicate w '-')

/-- The lines of a table, unless a column is too wide. -/
def layoutTable (rows : List (List String)) : Option (List String) :=
  let widths := columnWidths rows
  if widths.any (widthLimit < ·) then none
  else
    match rows with
    | [] => some []
    | head :: body =>
      some (String.ofList (layoutRow widths head) :: String.ofList (layoutRule widths) ::
        body.map fun row => String.ofList (layoutRow widths row))

def layoutContent : ScreenContent → Option String
  | .lines lines => some ("\n".intercalate lines)
  | .table rows => (layoutTable rows).map "\n".intercalate

def layout (s : Screen) : Option String := layoutContent s.content

def namedLayout (s : Screen) : Option String := s.layout.map fun text => "== " ++ s.name ++ " ==\n" ++ text

/-- Screens under their names, with empty lines between them. -/
def layoutAll (screens : List Screen) : Option String :=
  (screens.mapM namedLayout).map "\n\n".intercalate

end ScanConsole.Screen
