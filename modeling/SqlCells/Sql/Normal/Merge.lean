import SqlCells.Sql.Normal.Query

/-!
# Merges

Statements that compare the rows of a table with those of another and insert, change or delete rows
as they match or do not.
-/

namespace SqlCells
namespace Sql

/-- Which rows a branch of a merge is for. -/
inductive MergeMatch where
  | matched
  | notMatched
  | notMatchedByTarget
  | notMatchedBySource
  deriving DecidableEq, Repr

/-- The words for the rows of a branch. -/
def MergeMatch.text : MergeMatch → String
  | .matched => "MATCHED"
  | .notMatched => "NOT MATCHED"
  | .notMatchedByTarget => "NOT MATCHED BY TARGET"
  | .notMatchedBySource => "NOT MATCHED BY SOURCE"

/-- Whether the rows are there to be changed or deleted; otherwise they can only be inserted. -/
def MergeMatch.isPresent : MergeMatch → Bool
  | .matched | .notMatchedBySource => true
  | .notMatched | .notMatchedByTarget => false

namespace Reader

/-- Which rows a branch is for, behind `WHEN`. -/
def mergeMatch : Reader MergeMatch := do
  if ← word "NOT" then
    need "MATCHED"
    if ← words ["BY", "SOURCE"] then return .notMatchedBySource
    else if ← words ["BY", "TARGET"] then return .notMatchedByTarget
    else return .notMatched
  else
    need "MATCHED"
    return .matched

/-- What a branch does with its rows. -/
def mergeAction (g : Grammar) (rows : MergeMatch) : Reader String := do
  let verb ← oneOf ["UPDATE", "INSERT", "DELETE"]
  let permit (allowed : Bool) (name : String) : Reader Unit :=
    if allowed then pure ()
    else throw (.refused (name ++ " is not allowed in a " ++ rows.text ++ " merge clause") none)
  match verb with
  | some "UPDATE" =>
    permit rows.isPresent "UPDATE"
    need "SET"
    return "UPDATE SET " ++ joined (← commaList (assignment g))
  | some "DELETE" =>
    permit rows.isPresent "DELETE"
    return "DELETE"
  | some "INSERT" =>
    permit (!rows.isPresent) "INSERT"
    let cols ← columns?
    let values ← if ← word "ROW" then pure "ROW" else do
      need "VALUES"
      valueRows g
    return "INSERT " ++ (if cols.isEmpty then "" else cols ++ " ") ++ values
  | _ => throw (.refused "expected UPDATE, DELETE or INSERT in merge clause" none)

/-- A branch of a merge. Only a semicolon may stand behind the last. -/
def mergeBranch (g : Grammar) : Reader (Option String) := do
  match ← peek with
  | none => return none
  | some l =>
    if l.token = .semicolon then return none
    else
      need "WHEN"
      let rows ← mergeMatch
      let condition ← after "AND" g.expression
      need "THEN"
      let action ← mergeAction g rows
      return some ("WHEN " ++ rows.text ++ clause (condition.map ("AND " ++ ·)) ++ " THEN "
        ++ action)

/-- A statement behind `MERGE`. -/
def merge (g : Grammar) : Reader String := do
  let into := if ← word "INTO" then " INTO" else ""
  let factor : Reader Relation := do relation g (joinedUpTo g ((← get).length + 1))
  let target ← factor
  need "USING"
  let source ← factor
  need "ON"
  let condition ← g.expression
  let branches ← many (mergeBranch g)
  return "MERGE" ++ into ++ " " ++ target.text ++ " USING " ++ source.text ++ " ON " ++ condition
    ++ " " ++ String.intercalate " " branches

end Reader
end Sql
end SqlCells
