import SqlCells.Run.Execution

/-!
# Writing a frame to a table

A frame becomes a table: a probe finds out whether the table exists, then it is dropped and created
as asked, the rows are inserted in batches, and the whole is committed.
-/

namespace SqlCells
namespace Persist

/-- What to do when the table exists already. -/
inductive IfExists where
  | fail
  | replace
  | append
  deriving DecidableEq, Repr

/-- The number of rows in one insert. -/
def batchSize : Nat := 500

/-- A character that a table name may hold. -/
def isTableChar (c : Char) : Bool :=
  c.isAlphanum || c == '#' || c == '_' || c == '$'

/-- The table of a variable: its name in lower case, cut before the first character that a table
name may not hold. -/
def tableName (variableName : String) : Except Fault String :=
  let name := (Text.lower variableName.toList).takeWhile isTableChar
  if name.isEmpty then .error (.notATableName variableName) else .ok (String.ofList name)

/-- A text between two quote characters, a quote inside written twice. -/
def quoted (quote : Char) (s : List Char) : List Char :=
  quote :: s.flatMap (fun c => if c = quote then [quote, quote] else [c]) ++ [quote]

/-- The quote character of column names. -/
def columnQuote (d : Dialect) : Char :=
  match d.family with
  | .mySql | .spark | .bigQuery => '`'
  | _ => '"'

/-- A column name in quotes. -/
def columnName (d : Dialect) (name : String) : List Char :=
  quoted (columnQuote d) name.toList

/-- The type of a column, after its first value that is not null. -/
def columnType (d : Dialect) (values : List Value) : List Char :=
  (match values.find? fun v : Value => !v.isNull with
   | some (.bool _) => "BOOLEAN"
   | some (.int _) => if d.isPostgres then "BIGINT" else "INTEGER"
   | some (.float _) => if d.isPostgres then "DOUBLE PRECISION" else "REAL"
   | some (.bytes _) => if d.isPostgres then "BYTEA" else "BLOB"
   | _ => "TEXT").toList

/-- A value in an insert. -/
def literal (d : Dialect) (v : Value) : List Char :=
  match v with
  | .bytes b =>
    if d.isPostgres then "'\\x".toList ++ b.flatMap Text.hexByte ++ "'::bytea".toList
    else v.sqlLiteral
  | _ => v.sqlLiteral

/-- Items between commas in parentheses. -/
def tuple (items : List (List Char)) : List Char :=
  '(' :: Text.joinWith [',', ' '] items ++ [')']

/-- The statement that creates the table, with a leading index column or without. -/
def createTable (d : Dialect) (table : String) (f : Frame) (index : Bool) : List Char :=
  let indexColumn := if index then [columnName d "index" ++ " INTEGER".toList] else []
  let columns := (f.names.zip f.columns).map fun (name, values) =>
    columnName d name ++ ' ' :: columnType d values
  "CREATE TABLE ".toList ++ table.toList ++ ' ' :: tuple (indexColumn ++ columns)

/-- The values of one row of an insert. -/
def rowTuple (d : Dialect) (index : Bool) (position : Nat) (row : Row) : List Char :=
  tuple ((if index then [Text.decimal position] else []) ++ row.map (literal d))

/-- Cuts a list into pieces of `n`, the last of which may be shorter. -/
def chunks {α : Type} (n : Nat) (xs : List α) : List (List α) :=
  if _h : xs.isEmpty ∨ n = 0 then []
  else xs.take n :: chunks n (xs.drop n)
termination_by xs.length
decreasing_by
  have : xs.length ≠ 0 := by
    intro hz
    exact _h (Or.inl (by simp [List.length_eq_zero_iff.1 hz]))
  simp only [List.length_drop]
  omega

/-- The statements that insert the rows. -/
def insertStatements (d : Dialect) (table : String) (f : Frame) (index : Bool) :
    List (List Char) :=
  let names := (if index then [columnName d "index"] else []) ++ f.names.map (columnName d)
  let header := "INSERT INTO ".toList ++ table.toList ++ ' ' :: tuple names ++ " VALUES ".toList
  let tuples := f.rows.mapIdx (rowTuple d index)
  (chunks batchSize tuples).map fun batch => header ++ Text.joinWith [',', ' '] batch

/-- The query that succeeds only if the table exists. -/
def probe (table : String) : String :=
  "SELECT 1 FROM " ++ table ++ " WHERE 1 = 0"

/-- Runs statements whose answers do not matter, up to the first that fails. -/
def runAll : List (List Char) → Talk Unit
  | [] => pure ()
  | s :: rest => do
    let _ ← Talk.execute (String.ofList s) none
    runAll rest

/-- The statements to run once it is known whether the table exists. -/
def plan (d : Dialect) (table : String) (f : Frame) (ifExists : IfExists) (index tableExists : Bool) :
    Except Fault (List (List Char)) :=
  let create := createTable d table f index
  let inserts := insertStatements d table f index
  match tableExists, ifExists with
  | true, .fail => .error (.tableExists table)
  | true, .replace => .ok (("DROP TABLE ".toList ++ table.toList) :: create :: inserts)
  | true, .append => .ok inserts
  | false, _ => .ok (create :: inserts)

/-- Writes a frame to a table, and gives the messages to print. A commit that fails is only
reported. -/
def writeFrame (table : String) (f : Frame) (ifExists : IfExists) (index : Bool) :
    Talk (List String) := do
  let dialect ← Talk.dialect
  let probed ← Talk.attempt (Talk.execute (probe table) (some 0))
  let statements ← plan dialect table f ifExists index probed.isOk
  runAll statements
  if dialect.caps.rejectsCommit then return []
  match ← Talk.attempt Talk.commit with
  | .ok () => return []
  | .error _ => return [Execution.commitUnsupported]

end Persist
end SqlCells
