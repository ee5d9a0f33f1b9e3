import SqlCells.Session
import SqlCells.Data.Csv

/-!
# Printing replies

A reply is printed as a table, as CSV or as JSON.  Messages go before a table, and apart from the
other formats.
-/

namespace SqlCells

/-- How results are printed. -/
inductive OutputFormat where
  | table
  | csv
  | json
  deriving DecidableEq, Repr

/-- The format with a name, in any case. -/
def OutputFormat.ofName? (name : String) : Option OutputFormat :=
  let name := String.ofList (Text.lower name.toList)
  if name = "table" then some .table
  else if name = "csv" then some .csv
  else if name = "json" then some .json
  else none

/-- What is printed: results, and what is kept apart from them. -/
structure Printed where
  out : List Char := []
  err : List Char := []
  deriving DecidableEq, Repr

namespace Printed

/-- One printing after another. -/
def append (a b : Printed) : Printed :=
  ⟨a.out ++ b.out, a.err ++ b.err⟩

instance : Append Printed := ⟨append⟩

/-- A line apart from the results. -/
def errLine (line : List Char) : Printed :=
  { err := line ++ ['\n'] }

/-- The messages of a command, a line each. -/
def notices (format : OutputFormat) (messages : List String) : Printed :=
  let text := messages.flatMap fun m => m.toList ++ ['\n']
  match format with
  | .table => { out := text }
  | .csv | .json => { err := text }

end Printed

/-- The text of a result set in a format; tables show at most `limit` rows. -/
def ResultSet.textIn (format : OutputFormat) (limit : Nat) (rs : ResultSet) :
    Except Fault (List Char) :=
  match format with
  | .table => .ok (rs.table limit ++ ['\n'])
  | .csv => (rs.csvText ',').map fun text => text.getD []
  | .json => .ok (rs.toJson.indented 0 ++ ['\n'])

/-- The text of a command's product. -/
def Outcome.textIn (format : OutputFormat) (limit : Nat) : Outcome → Except Fault (List Char)
  | .nothing => .ok []
  | .status text => .ok (text.toList ++ ['\n'])
  | .rows rs => rs.textIn format limit
  | .frame f => (ResultSet.ofFrame f).textIn format limit

/-- Prints a reply; the messages are printed even when its product cannot be. -/
def Reply.print (format : OutputFormat) (limit : Nat) (r : Reply) : Printed × Option Fault :=
  let messages := Printed.notices format r.notices
  match r.outcome.textIn format limit with
  | .ok text => (messages ++ { out := text }, none)
  | .error f => (messages, some f)

end SqlCells
