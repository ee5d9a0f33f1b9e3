import SqlCells.Sql.Normal.Query

/-!
# Privileges

Statements that grant privileges and revoke them.
-/

namespace SqlCells
namespace Sql
namespace Reader

/-- A privilege, with the columns that it is for. -/
def privilege : Reader String := do
  match ← oneOf ["INSERT", "REFERENCES", "SELECT", "UPDATE"] with
  | some name =>
    let cols ← columns?
    return if cols.isEmpty then name else name ++ " " ++ cols
  | none =>
    match ← oneOf ["CONNECT", "CREATE", "DELETE", "EXECUTE", "TEMPORARY", "TRIGGER", "TRUNCATE",
      "USAGE"] with
    | some name => return name
    | none => expected "a privilege keyword"

/-- All privileges or some. -/
def privileges : Reader String := do
  if ← word "ALL" then return if ← word "PRIVILEGES" then "ALL PRIVILEGES" else "ALL"
  else return joined (← commaList privilege)

/-- What privileges are for. The keyword of tables is left out. -/
def privilegeObjects : Reader String := do
  let start ←
    if ← words ["ALL", "TABLES", "IN", "SCHEMA"] then pure "ALL TABLES IN SCHEMA "
    else if ← words ["ALL", "SEQUENCES", "IN", "SCHEMA"] then pure "ALL SEQUENCES IN SCHEMA "
    else match ← oneOf ["SEQUENCE", "SCHEMA", "TABLE"] with
      | some "SEQUENCE" => pure "SEQUENCE "
      | some "SCHEMA" => pure "SCHEMA "
      | _ => pure ""
  return start ++ joined (← commaList objectName)

/-- Privileges and what they are for. -/
def privilegesOnObjects : Reader String := do
  let what ← privileges
  need "ON"
  return what ++ " ON " ++ (← privilegeObjects)

/-- Who grants or revokes, if it is said. -/
def grantor : Reader String := do
  if ← words ["GRANTED", "BY"] then return " GRANTED BY " ++ (← identifier) else return ""

/-- A statement behind `GRANT`. -/
def grant : Reader String := do
  let what ← privilegesOnObjects
  need "TO"
  let receivers ← commaList identifier
  let passedOn := if ← words ["WITH", "GRANT", "OPTION"] then " WITH GRANT OPTION" else ""
  return "GRANT " ++ what ++ " TO " ++ joined receivers ++ passedOn ++ (← grantor)

/-- A statement behind `REVOKE`. Privileges that depend on the revoked ones forbid the statement
unless it says that they are revoked too. -/
def revoke : Reader String := do
  let what ← privilegesOnObjects
  need "FROM"
  let holders ← commaList identifier
  let by_ ← grantor
  let place ← place
  let cascade ← word "CASCADE"
  let restrict ← word "RESTRICT"
  if cascade && restrict then
    throw (.refused "Cannot specify both CASCADE and RESTRICT in REVOKE" place)
  return "REVOKE " ++ what ++ " FROM " ++ joined holders ++ by_
    ++ (if cascade then " CASCADE" else " RESTRICT")

end Reader
end Sql
end SqlCells
