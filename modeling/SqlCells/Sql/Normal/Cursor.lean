import SqlCells.Sql.Normal.Query

/-!
# Cursors

Statements that declare a cursor on a query, fetch rows from it and close it.
-/

namespace SqlCells
namespace Sql
namespace Reader

/-- The first of two phrases that comes next, or nothing; each is a list of keywords. -/
def eitherPhrase (one other : List String) : Reader (Option String) := do
  if ← words one then return some (String.intercalate " " one)
  else if ← words other then return some (String.intercalate " " other)
  else return none

/-- A statement behind `DECLARE`. -/
def declareCursor (g : Grammar) : Reader String := do
  let name ← identifier
  let binary ← eitherPhrase ["BINARY"] ["BINARY"]
  let sensitive ← eitherPhrase ["INSENSITIVE"] ["ASENSITIVE"]
  let scroll ← eitherPhrase ["SCROLL"] ["NO", "SCROLL"]
  need "CURSOR"
  let hold ← match ← oneOf ["WITH", "WITHOUT"] with
    | some w => do
      need "HOLD"
      pure (some (w ++ " HOLD"))
    | none => pure none
  need "FOR"
  let q ← g.query
  return "DECLARE " ++ name ++ clause binary ++ clause sensitive ++ clause scroll ++ " CURSOR"
    ++ clause hold ++ " FOR " ++ q

/-- A count of rows. -/
def rowCount : Reader String := do
  match (← peek).map Lexeme.token with
  | some (.number _ _) | some (.placeholder _) => concreteValue
  | _ => expected "literal number"

/-- Which rows are fetched. -/
def fetchDirection : Reader String := do
  match ← oneOf ["NEXT", "PRIOR", "FIRST", "LAST", "ABSOLUTE", "RELATIVE", "FORWARD", "BACKWARD",
    "ALL"] with
  | none => rowCount
  | some w =>
    if w = "ABSOLUTE" ∨ w = "RELATIVE" then return w ++ " " ++ (← rowCount)
    else if w = "FORWARD" ∨ w = "BACKWARD" then
      return w ++ " " ++ (← if ← word "ALL" then pure "ALL" else rowCount)
    else return w

/-- A statement behind `FETCH`. -/
def fetchFromCursor : Reader String := do
  let direction ← fetchDirection
  let _ ← needOneOf ["FROM", "IN"]
  let name ← identifier
  let place ← after "INTO" objectName
  return "FETCH " ++ direction ++ " IN " ++ name ++ clause (place.map ("INTO " ++ ·))

/-- A statement behind `CLOSE`. -/
def closeCursor : Reader String := do
  return "CLOSE " ++ (← if ← word "ALL" then pure "ALL" else identifier)

end Reader
end Sql
end SqlCells
