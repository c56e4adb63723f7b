import SearchFilter.Text.Width

/-!
# Tables

A table is drawn with lines between all cells.  Every column is as wide as its widest cell, counted
in display columns, and cells are filled up with spaces on the right.
-/

namespace SearchFilter.Table

/-- The wider of two rows, column by column. -/
def widest : List Nat → List Nat → List Nat
  | m :: ms, n :: ns => max m n :: widest ms ns
  | [], ns => ns
  | ms, [] => ms

def columnWidths (rows : List (List Text)) : List Nat :=
  rows.foldl (fun widths row => widest widths (row.map Text.width)) []

/-- A line of strokes between the rows, with `joint` where columns meet. -/
def rule (edge stroke joint : Char) (widths : List Nat) : Text :=
  edge :: ((widths.map fun w => List.replicate (w + 2) stroke).intersperse [joint]).flatten ++ [edge]

/-- The text of a cell, filled up to the width of its column. -/
def cell (width : Nat) (s : Text) : Text :=
  ' ' :: s ++ List.replicate (width - Text.width s + 1) ' '

/-- The line of a row. -/
def line (widths : List Nat) (row : List Text) : Text :=
  '|' :: ((widths.zipWith cell row).intersperse ['|']).flatten ++ ['|']

/-- The lines of a table: the header, a double rule and the rows with a rule between each two. -/
def lines (header : List Text) (rows : List (List Text)) : List Text :=
  let widths := columnWidths (header :: rows)
  let border := rule '+' '-' '+' widths
  [border, line widths header, rule '+' '=' '=' widths]
    ++ (rows.map (line widths)).intersperse (rule '|' '-' '+' widths) ++ [border]

def render (header : List Text) (rows : List (List Text)) : Text :=
  ((lines header rows).intersperse ['\n']).flatten

end SearchFilter.Table
