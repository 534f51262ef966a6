import SearchQuery.Text.Columns
import SearchQuery.Text.Split

/-!
# Grids

A table with borders. A cell holds one or more lines; a column is as wide as its widest line, and
every line has a blank on either side. A row has as many lines as its highest cell. `scoped tokens`
prints its tokens in one.
-/
namespace SearchQuery.Grid

abbrev Cell := List (List Char)

abbrev Row := List Cell

def cell (text : String) : Cell := Text.split '\n' text.toList

def cellWidth (c : Cell) : Nat := c.foldl (fun width line => max width (Text.columns line)) 0

/-- The wider of two columns, column by column. -/
def widest : List Nat → List Nat → List Nat
  | a :: as, b :: bs => max a b :: widest as bs
  | [], bs => bs
  | as, [] => as

def widths (rows : List Row) : List Nat :=
  rows.foldl (fun ws row => widest ws (row.map cellWidth)) []

def padded (width : Nat) (line : List Char) : String :=
  " " ++ String.ofList line ++ String.ofList (List.replicate (width - Text.columns line) ' ') ++ " "

/-- One line of a row, cells without that line being blank. -/
def rowLine (ws : List Nat) (row : Row) (index : Nat) : String :=
  "│" ++ "┆".intercalate ((ws.zip row).map fun (w, c) => padded w (c.getD index [])) ++ "│"

def rowLines (ws : List Nat) (row : Row) : List String :=
  (List.range (row.foldl (fun height c => max height c.length) 0)).map (rowLine ws row)

def border (left fill middle right : String) (ws : List Nat) : String :=
  left ++ middle.intercalate (ws.map fun w => String.join (List.replicate (w + 2) fill)) ++ right

def lines (header : Row) (rows : List Row) : List String :=
  let ws := widths (header :: rows)
  [border "┌" "─" "┬" "┐" ws] ++ rowLines ws header ++ [border "╞" "═" "╪" "╡" ws] ++
    rows.flatMap (rowLines ws) ++ [border "└" "─" "┴" "┘" ws]

end SearchQuery.Grid
