import SqlCells.Sql.Normal.Query

/-!
# Transactions

Statements that begin, mark and end transactions.
-/

namespace SqlCells
namespace Sql
namespace Reader

/-- One mode of a transaction, if one comes next. -/
def transactionMode : Reader (Option String) := do
  if ← words ["ISOLATION", "LEVEL"] then
    if ← words ["READ", "UNCOMMITTED"] then return some "ISOLATION LEVEL READ UNCOMMITTED"
    else if ← words ["READ", "COMMITTED"] then return some "ISOLATION LEVEL READ COMMITTED"
    else if ← words ["REPEATABLE", "READ"] then return some "ISOLATION LEVEL REPEATABLE READ"
    else if ← word "SERIALIZABLE" then return some "ISOLATION LEVEL SERIALIZABLE"
    else expected "isolation level"
  else if ← words ["READ", "ONLY"] then return some "READ ONLY"
  else if ← words ["READ", "WRITE"] then return some "READ WRITE"
  else return none

/-- The modes of a transaction; `required` tells that one has to come next. At most `n` of them. -/
def transactionModesUpTo (required : Bool) : Nat → Reader (List String)
  | 0 => return []
  | n + 1 => do
    match ← transactionMode with
    | some mode => return mode :: (← transactionModesUpTo (← sign ",") n)
    | none => if required then expected "transaction mode" else return []

/-- The modes of a transaction. -/
def transactionModes : Reader (Option String) := do
  match ← transactionModesUpTo false ((← get).length + 1) with
  | [] => return none
  | modes => return some (joined modes)

/-- A statement behind `BEGIN`. -/
def beginTransaction : Reader String := do
  let kind ← oneOf ["DEFERRED", "IMMEDIATE", "EXCLUSIVE"]
  let _ ← oneOf ["TRANSACTION", "WORK"]
  return "BEGIN" ++ clause kind ++ " TRANSACTION" ++ clause (← transactionModes)

/-- Whether another transaction follows at once. -/
def chain : Reader String := do
  let _ ← oneOf ["TRANSACTION", "WORK"]
  if ← word "AND" then
    let no ← word "NO"
    need "CHAIN"
    return if no then "" else " AND CHAIN"
  else return ""

/-- A statement behind `ROLLBACK`. -/
def rollback : Reader String := do
  let c ← chain
  if ← word "TO" then
    let _ ← word "SAVEPOINT"
    return "ROLLBACK" ++ c ++ " TO SAVEPOINT " ++ (← identifier)
  else return "ROLLBACK" ++ c

end Reader
end Sql
end SqlCells
