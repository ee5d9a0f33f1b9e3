import SqlCells.Data.ResultSet

/-!
# Plain-text tables

A result set drawn with borders.  Each column is as wide as its name and its longest shown cell, in
characters, with one blank on either side; a footer tells when rows are hidden.
-/

namespace SqlCells
namespace Table

/-- The number of rows shown under a display limit; zero is no limit. -/
def shownCount (limit total : Nat) : Nat :=
  if limit = 0 then total else min total limit

/-- The width of column `i`: the longest of its name and its cells. -/
def width (keys : List (List Char)) (cells : List (List (List Char))) (i : Nat) : Nat :=
  cells.foldl (fun w row => max w (row.getD i []).length) (keys.getD i []).length

/-- The widths of all columns. -/
def widths (keys : List (List Char)) (cells : List (List (List Char))) : List Nat :=
  (List.range keys.length).map (width keys cells)

/-- The border line. -/
def separator (ws : List Nat) : List Char :=
  '+' :: Text.joinWith ['+'] (ws.map fun w => List.replicate (w + 2) '-') ++ ['+']

/-- A text with blanks after it up to a width, and one blank on either side. -/
def padded (w : Nat) (text : List Char) : List Char :=
  ' ' :: text ++ List.replicate (w - text.length) ' ' ++ [' ']

/-- A line of cells; a missing cell is empty, and cells beyond the last column are left out. -/
def line (ws : List Nat) (cells : List (List Char)) : List Char :=
  '|' :: Text.joinWith ['|'] (ws.mapIdx fun i w => padded w (cells.getD i [])) ++ ['|']

/-- The footer when rows are hidden. -/
def footer (total limit : Nat) : List Char :=
  Text.decimal total ++ " rows, truncated to displaylimit of ".toList ++ Text.decimal limit

end Table

namespace ResultSet

/-- The lines of the table with at most `limit` rows; zero is no limit. -/
def tableLines (rs : ResultSet) (limit : Nat) : List (List Char) :=
  let keys := rs.keys.map String.toList
  let shown := Table.shownCount limit rs.rows.length
  let cells := (rs.rows.take shown).map fun row => row.map Value.display
  let ws := Table.widths keys cells
  let border := Table.separator ws
  [border, Table.line ws keys, border] ++ cells.map (Table.line ws) ++ [border]
    ++ (if shown < rs.rows.length then [Table.footer rs.rows.length limit] else [])

/-- The table as text. -/
def table (rs : ResultSet) (limit : Nat) : List Char :=
  Text.joinWith ['\n'] (rs.tableLines limit)

end ResultSet
end SqlCells
