import SqlCells.Text.Words

/-!
# Scripts

A script is cut into cells.  A line that starts with `%%sql` opens a cell: the rest of the line is its
header, and the lines up to the next marker are its body.  A line that starts with `%sql` is a cell of
its own.  Text before the first marker, or after a one-line cell, is a cell with an empty header.
-/

namespace SqlCells
namespace Script

/-- One command of a script. -/
structure Cell where
  header : List Char
  body : List Char
  /-- The number of the cell's first line, from one. -/
  line : Nat
  deriving DecidableEq, Repr

/-- What a line of a script is. -/
inductive LineKind where
  /-- The first line of a cell with a body. -/
  | block (header : List Char)
  /-- A cell of one line. -/
  | single (header : List Char)
  | text
  deriving DecidableEq, Repr

/-- Reads a line. -/
def LineKind.of (line : List Char) : LineKind :=
  match Text.dropPrefix? "%%sql".toList line with
  | some header => .block (Text.trim header)
  | none =>
    match Text.dropPrefix? "%sql".toList line with
    | some header => .single (Text.trim header)
    | none => .text

/-- A cell with one more line in its body. Empty lines before the first other line are dropped. -/
def Cell.addLine (c : Cell) (line : List Char) : Cell :=
  { c with body := (if c.body.isEmpty then [] else c.body ++ ['\n']) ++ line }

/-- The cells of numbered lines; `current` is the cell that takes further lines. -/
def cellsFrom (current : Option Cell) : List (Nat × List Char) → List Cell
  | [] => current.toList
  | (number, line) :: rest =>
    match LineKind.of line with
    | .block header => current.toList ++ cellsFrom (some ⟨header, [], number⟩) rest
    | .single header => current.toList ++ ⟨header, [], number⟩ :: cellsFrom none rest
    | .text => cellsFrom (some ((current.getD ⟨[], [], number⟩).addLine line)) rest

/-- Whether a cell has neither header nor body. -/
def Cell.isBlank (c : Cell) : Bool :=
  c.header.isEmpty && Text.isAllBlank c.body

/-- The lines of a script with their numbers. -/
def numberedLines (script : List Char) : List (Nat × List Char) :=
  (Text.lines script).mapIdx fun i line => (i + 1, line)

/-- The cells of a script, blank ones left out and blanks at the end of bodies dropped. -/
def split (script : List Char) : List Cell :=
  ((cellsFrom none (numberedLines script)).filter fun c => !c.isBlank).map fun c =>
    { c with body := Text.trimEnd c.body }

end Script
end SqlCells
