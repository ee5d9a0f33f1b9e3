import SqlCells.Data.Frame
import SqlCells.Fault

/-!
# Result sets

The rows of one statement with distinct column names, bounded when the set is built.  Every view of a
set, by row, by column, by key, as a frame or as JSON, reads the same rows.
-/

namespace SqlCells

/-- What a database driver answers to one statement. -/
structure RawResult where
  /-- Column names as the driver reports them; they may repeat. -/
  columns : List String := []
  rows : List Row := []
  /-- The number of rows changed, if the driver reports it. -/
  affected : Option Nat := none
  /-- Whether the statement produces rows at all. -/
  returnsRows : Bool := false
  deriving DecidableEq, Repr, Inhabited

namespace RawResult

/-- The answer of a statement that produces rows. -/
def ofRows (columns : List String) (rows : List Row) : RawResult :=
  { columns, rows, returnsRows := true }

/-- The answer of a statement that changed some rows. -/
def ofAffected (n : Nat) : RawResult :=
  { affected := some n }

/-- The answer with at most as many rows as the limit allows. -/
def truncate (limit : Option Nat) (r : RawResult) : RawResult :=
  match limit with
  | some n => { r with rows := r.rows.take n }
  | none => r

end RawResult

/-- A name, then the name with `_1`, `_2` and so on, `count` of these. -/
def suffixed (name : String) (count : Nat) : List String :=
  name :: (List.range count).map fun k => name ++ "_" ++ toString (k + 1)

/-- The first of a name and its suffixed forms that is not taken. -/
def freshName (taken : List String) (name : String) : String :=
  ((suffixed name taken.length).find? fun n => !taken.contains n).getD name

/-- Makes each name distinct from all before it, given the names already settled. -/
def distinctNamesFrom (taken : List String) : List String → List String
  | [] => taken
  | name :: rest => distinctNamesFrom (taken ++ [freshName taken name]) rest

/-- Makes the names distinct: one that repeats an earlier name gets a suffix. -/
def distinctNames (names : List String) : List String :=
  distinctNamesFrom [] names

namespace Keyed

variable {α : Type}

/-- Puts a value at a key: in the place of the value that the key has, or else behind all others. -/
def insert (key : String) (value : α) : List (String × α) → List (String × α)
  | [] => [(key, value)]
  | (k, v) :: rest => if k = key then (key, value) :: rest else (k, v) :: insert key value rest

/-- Pairs as a map: keys stand where they came first, each with the value that came last. -/
def ofPairs (pairs : List (String × α)) : List (String × α) :=
  pairs.foldl (fun map (key, value) => insert key value map) []

end Keyed

/-- The rows and column names of one statement. -/
structure ResultSet where
  keys : List String := []
  rows : List Row := []
  affected : Option Nat := none
  returnsRows : Bool := false
  /-- The bound that the rows were cut to. -/
  rowLimit : Option Nat := none
  deriving DecidableEq, Repr, Inhabited

namespace ResultSet

/-- The set of a driver's answer, with at most `limit` rows. -/
def ofRaw (raw : RawResult) (limit : Option Nat) : ResultSet where
  keys := distinctNames raw.columns
  rows := (raw.truncate limit).rows
  affected := raw.affected
  returnsRows := raw.returnsRows
  rowLimit := limit

/-- The number of rows. -/
def size (rs : ResultSet) : Nat :=
  rs.rows.length

/-- The only row whose first cell answers to a key. -/
def byKey (rs : ResultSet) (key : String) : Except Fault Row :=
  let found := rs.rows.filter fun row =>
    match row with
    | [] => false
    | v :: _ => v.matchesKey key
  match found with
  | [] => .error (.keyNotFound key)
  | [row] => .ok row
  | _ => .error (.keyAmbiguous key found.length)

/-- Each column name with the values of its column; missing cells are null. -/
def toDict (rs : ResultSet) : List (String × List Value) :=
  Keyed.ofPairs (rs.keys.mapIdx fun i key => (key, rs.rows.map fun row => row.getD i .null))

/-- For each row the column names with their cells. -/
def toDicts (rs : ResultSet) : List (List (String × Value)) :=
  rs.rows.map fun row => Keyed.ofPairs (rs.keys.zip row)

/-- The set as a frame. -/
def toFrame (rs : ResultSet) : Frame :=
  Frame.ofRows rs.keys rs.rows

/-- The set of a frame. -/
def ofFrame (f : Frame) : ResultSet :=
  ofRaw (.ofRows f.names f.rows) none

/-- The set in JSON: a list of objects, one for each row. -/
def toJson (rs : ResultSet) : Json :=
  .array (rs.rows.map fun row => .object (Json.sortFields (rs.keys.zip (row.map Value.toJson))))

/-- The diagnostic text of a list. -/
def debugList {α : Type} (f : α → List Char) (xs : List α) : List Char :=
  '[' :: Text.joinWith [',', ' '] (xs.map f) ++ [']']

/-- The diagnostic text of an optional number. -/
def debugOption (n : Option Nat) : List Char :=
  match n with
  | some n => "Some(".toList ++ Text.decimal n ++ [')']
  | none => "None".toList

end ResultSet

/-- The diagnostic text of a frame. -/
def Frame.debugText (f : Frame) : List Char :=
  "Frame \x7b names: ".toList ++ ResultSet.debugList (fun n => Text.quoted n.toList) f.names
    ++ ", columns: ".toList ++ ResultSet.debugList (ResultSet.debugList Value.debugText) f.columns
    ++ " \x7d".toList

/-- The diagnostic text of a result set. -/
def ResultSet.debugText (rs : ResultSet) : List Char :=
  "ResultSet \x7b keys: ".toList ++ ResultSet.debugList (fun n => Text.quoted n.toList) rs.keys
    ++ ", rows: ".toList ++ ResultSet.debugList (ResultSet.debugList Value.debugText) rs.rows
    ++ ", rows_affected: ".toList ++ ResultSet.debugOption rs.affected
    ++ ", returns_rows: ".toList ++ (if rs.returnsRows then "true".toList else "false".toList)
    ++ ", row_limit: ".toList ++ ResultSet.debugOption rs.rowLimit ++ " \x7d".toList

end SqlCells
