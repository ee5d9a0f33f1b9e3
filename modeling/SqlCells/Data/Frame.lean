import SqlCells.Data.Value

/-!
# Frames

A table by columns: one list of values for each named column.
-/

namespace SqlCells

/-- A table by columns. -/
structure Frame where
  names : List String
  columns : List (List Value)
  deriving DecidableEq, Repr, Inhabited

namespace Frame

/-- Puts one cell of a row behind each column. A row that is too short is filled up with nulls; cells
beyond the last column are dropped. -/
def push : List (List Value) → Row → List (List Value)
  | [], _ => []
  | column :: columns, [] => (column ++ [.null]) :: push columns []
  | column :: columns, v :: row => (column ++ [v]) :: push columns row

/-- Turns rows into columns, row by row. -/
def ofRows (names : List String) (rows : List Row) : Frame :=
  ⟨names, rows.foldl push (names.map fun _ => [])⟩

/-- The number of rows. -/
def size (f : Frame) : Nat :=
  match f.columns with
  | [] => 0
  | c :: _ => c.length

/-- Whether there are no rows. -/
def isEmpty (f : Frame) : Bool :=
  f.size == 0

/-- The values of the first column with the given name. -/
def column? (f : Frame) (name : String) : Option (List Value) :=
  if f.names.contains name then f.columns[f.names.idxOf name]? else none

/-- The row at an index. -/
def row? (f : Frame) (i : Nat) : Option Row :=
  if i < f.size then some (f.columns.map fun c => c.getD i .null) else none

/-- The rows in order. -/
def rows (f : Frame) : List Row :=
  (List.range f.size).filterMap f.row?

/-- The frame in JSON, its values with their kinds. -/
def tagged (f : Frame) : Json :=
  .object [("names", .array (f.names.map .string)),
    ("columns", .array (f.columns.map fun c => .array (c.map Value.tagged)))]

end Frame
end SqlCells
