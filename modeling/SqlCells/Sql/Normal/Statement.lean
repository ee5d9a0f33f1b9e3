import SqlCells.Sql.Normal.Copy
import SqlCells.Sql.Normal.Cursor
import SqlCells.Sql.Normal.Definition
import SqlCells.Sql.Normal.Merge
import SqlCells.Sql.Normal.Privilege
import SqlCells.Sql.Normal.Setting

/-!
# Statements in normal form

A text of statements is read by a broad, dialect-neutral grammar and written again in one way:
keywords in upper case, one blank between words, `AS` before every alias.  Statements may not nest
deeper than `maxDepth`.  Main definition: `normalForms`.
-/

namespace SqlCells
namespace Sql
namespace Reader

/-- A statement behind `EXPLAIN` or a word of the same meaning. -/
def explanation (g : Grammar) (verb : String) : Reader Normal := do
  let analyze := if ← word "ANALYZE" then "ANALYZE " else ""
  let verbose := if ← word "VERBOSE" then "VERBOSE " else ""
  let format ← after "FORMAT" (needOneOf ["TEXT", "JSON", "GRAPHVIZ", "TRADITIONAL", "TREE"])
  let format := match format with
    | some f => "FORMAT " ++ f ++ " "
    | none => ""
  match ← maybe g.statement with
  | some s =>
    if s.explains then throw (.refused "Explain must be root of the plan" none)
    else return ⟨s.text.map fun t => verb ++ " " ++ analyze ++ verbose ++ format ++ t, true⟩
  | none =>
    let kind ← oneOf ["EXTENDED", "FORMATTED"]
    let name ← objectName
    return ⟨some (verb ++ clause kind ++ " " ++ name), true⟩

/-- A statement under a name, behind `PREPARE`, with the types of its parameters. -/
def preparation (g : Grammar) : Reader Normal := do
  let name ← identifier
  let types ←
    if isSign "(" (← peek) then
      (do return " (" ++ joined ((← parenthesized (commaList dataType)).map DataType.text) ++ ")")
    else pure ""
  need "AS"
  let s ← g.statement
  return ⟨s.text.map fun t => "PREPARE " ++ name ++ types ++ " AS " ++ t, false⟩

/-- A statement that runs a prepared one, behind `EXECUTE`. -/
def execution (g : Grammar) : Reader String := do
  let name ← identifier
  let parameters ←
    if isSign "(" (← peek) then
      (do return "(" ++ joined (← parenthesized (commaList g.expression)) ++ ")")
    else pure ""
  let sources ← after "USING" (commaList g.expression)
  return "EXECUTE " ++ name ++ parameters ++ clause (sources.map fun es => "USING " ++ joined es)

/-- A statement behind `ANALYZE`. -/
def analysis (g : Grammar) : Reader String := do
  need "TABLE"
  let name ← objectName
  let option : Reader (Option (String × String)) := do
    match ← oneOf ["PARTITION", "NOSCAN", "FOR", "CACHE", "COMPUTE"] with
    | some "PARTITION" =>
      let items ← parenthesized (commaList g.expression)
      return some ("PARTITION", " PARTITION (" ++ joined items ++ ")")
    | some "NOSCAN" => return some ("NOSCAN", " NOSCAN")
    | some "CACHE" =>
      need "METADATA"
      return some ("CACHE", " CACHE METADATA")
    | some "COMPUTE" =>
      need "STATISTICS"
      return some ("COMPUTE", " COMPUTE STATISTICS")
    | some _ =>
      need "COLUMNS"
      return some ("FOR", " FOR COLUMNS" ++ clause ((← maybe (commaList identifier)).map joined))
    | none => return none
  let options ← many option
  let last (kind : String) : String :=
    (((options.filter fun o => o.1 = kind).getLast?).map Prod.snd).getD ""
  return "ANALYZE TABLE " ++ name
    ++ String.join (["PARTITION", "COMPUTE", "NOSCAN", "CACHE", "FOR"].map last)

/-- A statement that adds a database file, behind `ATTACH`. -/
def attachment (g : Grammar) : Reader String := do
  let keyword := if ← word "DATABASE" then "DATABASE " else ""
  let file ← g.expression
  need "AS"
  return "ATTACH " ++ keyword ++ file ++ " AS " ++ (← identifier)

/-- A statement that takes a database away, behind `DETACH`. -/
def detachment : Reader String := do
  let keyword := if ← word "DATABASE" then " DATABASE" else ""
  let when_ := if ← words ["IF", "EXISTS"] then " IF EXISTS" else ""
  return "DETACH" ++ keyword ++ when_ ++ " " ++ (← identifier)

/-- A statement that stops another session, behind `KILL`. -/
def termination : Reader String := do
  let kind ← oneOf ["CONNECTION", "QUERY", "MUTATION"]
  return "KILL" ++ clause kind ++ " " ++ (← wholeNumber)

/-- A statement that discards what a session holds, behind `DISCARD`. -/
def discarding : Reader String := do
  match ← oneOf ["ALL", "PLANS", "SEQUENCES", "TEMP", "TEMPORARY"] with
  | some "TEMPORARY" => return "DISCARD TEMP"
  | some kind => return "DISCARD " ++ kind
  | none => expected "ALL, PLANS, SEQUENCES, TEMP or TEMPORARY after DISCARD"

/-- Statements that stay as they are written. -/
def leftAsWritten : List String :=
  ["FLUSH", "MSCK", "CACHE", "UNCACHE", "UNLOAD", "INSTALL", "LOAD", "OPTIMIZE"]

/-- The normal form of a statement that has one; one that stays as it is written is passed over. -/
def orAsWritten (text : Option String) : Reader Normal := do
  if text.isNone then modify fun ls => ls.dropWhile fun l => l.token ≠ .semicolon
  return ⟨text, false⟩

/-- A statement, its parts being read one level deeper. -/
def statement (g : Grammar) : Reader Normal := do
  let l ← peek
  let normal (p : Reader String) : Reader Normal := do
    let _ ← next
    return ⟨some (← p), false⟩
  let perhaps (p : Reader (Option String)) : Reader Normal := do
    let _ ← next
    orAsWritten (← p)
  match wordOf l with
  | some "SELECT" | some "WITH" | some "VALUES" => return ⟨some (← g.query), false⟩
  | some "DESC" | some "DESCRIBE" | some "EXPLAIN" =>
    let _ ← next
    explanation g ((wordOf l).getD "")
  | some "INSERT" => normal (insert g "INSERT")
  | some "REPLACE" => normal (insert g "REPLACE")
  | some "UPDATE" => normal (update g)
  | some "DELETE" => normal (delete g)
  | some "CREATE" => perhaps (create g)
  | some "DROP" => perhaps (drop g)
  | some "ALTER" => perhaps (alter g)
  | some "TRUNCATE" => normal truncate
  | some "BEGIN" => normal beginTransaction
  | some "START" => normal do
    need "TRANSACTION"
    return "START TRANSACTION" ++ clause (← transactionModes)
  | some "COMMIT" | some "END" => normal do return "COMMIT" ++ (← chain)
  | some "ROLLBACK" => normal rollback
  | some "SAVEPOINT" => normal do return "SAVEPOINT " ++ (← identifier)
  | some "RELEASE" => normal do
    let _ ← word "SAVEPOINT"
    return "RELEASE SAVEPOINT " ++ (← identifier)
  | some "SET" => normal (setting g)
  | some "SHOW" => normal (showing g)
  | some "USE" => normal do return "USE " ++ (← objectName)
  | some "PRAGMA" => normal pragma
  | some "CALL" => normal do
    let name ← objectName
    if isSign "(" (← peek) then return "CALL " ++ (← functionCall g name)
    else return "CALL " ++ name
  | some "ASSERT" => normal do
    let condition ← g.expression
    return "ASSERT " ++ condition ++ clause ((← after "AS" g.expression).map ("AS " ++ ·))
  | some "ANALYZE" => normal (analysis g)
  | some "PREPARE" =>
    let _ ← next
    preparation g
  | some "EXECUTE" => normal (execution g)
  | some "DEALLOCATE" => normal do
    let keyword := if ← word "PREPARE" then "PREPARE " else ""
    return "DEALLOCATE " ++ keyword ++ (← identifier)
  | some "GRANT" => normal grant
  | some "REVOKE" => normal revoke
  | some "MERGE" => normal (merge g)
  | some "COPY" => perhaps (copy g)
  | some "DECLARE" => normal (declareCursor g)
  | some "FETCH" => normal fetchFromCursor
  | some "CLOSE" => normal closeCursor
  | some "ATTACH" => normal (attachment g)
  | some "DETACH" => normal detachment
  | some "KILL" => normal termination
  | some "DISCARD" => normal discarding
  | some w =>
    let _ ← next
    if leftAsWritten.contains w then orAsWritten none else unexpected "an SQL statement" l
  | none =>
    if isSign "(" l then return ⟨some (← g.query), false⟩
    else
      let _ ← next
      unexpected "an SQL statement" l

/-- Statements between semicolons, at most `n` of them. Reading ends at the end of the text, or at an
`END` that no semicolon stands before. -/
def statementsUpTo (g : Grammar) : Nat → Reader (List Normal)
  | 0 => return []
  | n + 1 => do
    modify fun ls => ls.dropWhile fun l => l.token = .semicolon
    if (← get).isEmpty then return []
    let s ← g.statement
    match ← peek with
    | none => return [s]
    | some l =>
      if l.token = .semicolon then return s :: (← statementsUpTo g n)
      else if wordOf (some l) = some "END" then return [s]
      else unexpected "end of statement" l

end Reader

/-- The grammar whose parts are read one level deeper. -/
def Grammar.deeper (g : Grammar) : Grammar where
  expression := Reader.expression g
  query := Reader.query g
  statement := Reader.statement g

/-- The grammar with a bounded depth. -/
def Grammar.ofDepth : Nat → Grammar
  | 0 => .exhausted
  | n + 1 => (ofDepth n).deeper

/-- How many statements, queries and expressions may stand inside one another. -/
def maxDepth : Nat := 50

/-- The statements of a text in normal form. -/
def normalForms (text : List Char) : Except SyntaxFlaw (List Normal) :=
  match lex text with
  | .error f => .error (.lexical f)
  | .ok lexemes =>
    let lexemes := lexemes.filter fun l => !l.token.isTrivia
    (Reader.statementsUpTo (.ofDepth maxDepth) (lexemes.length + 1)).run' lexemes

end Sql
end SqlCells
