import SqlCells.Sql.Normal.SchemaObject

/-!
# Definitions

Statements that create, change and drop tables, views and indexes.
-/

namespace SqlCells
namespace Sql
namespace Reader

/-- What happens to rows that refer to one that changes. -/
def referentialAction : Reader String := do
  if ← word "RESTRICT" then return "RESTRICT"
  else if ← word "CASCADE" then return "CASCADE"
  else if ← words ["SET", "NULL"] then return "SET NULL"
  else if ← words ["NO", "ACTION"] then return "NO ACTION"
  else if ← words ["SET", "DEFAULT"] then return "SET DEFAULT"
  else expected "one of RESTRICT, CASCADE, SET NULL, NO ACTION or SET DEFAULT"

/-- What happens on deletion and update of a row referred to; the two may come in either order. -/
def referentialActions : Reader String := do
  let onDelete : Reader (Option String) := do
    if ← words ["ON", "DELETE"] then return some ("ON DELETE " ++ (← referentialAction))
    else return none
  let onUpdate : Reader (Option String) := do
    if ← words ["ON", "UPDATE"] then return some ("ON UPDATE " ++ (← referentialAction))
    else return none
  match ← onDelete with
  | some d => return clause (some d) ++ clause (← onUpdate)
  | none =>
    let u ← onUpdate
    let d ← if u.isSome then onDelete else pure none
    return clause d ++ clause u

/-- A computed value in parentheses, and whether it is stored. -/
def computedValue (g : Grammar) : Reader String := do
  let e ← parenthesized g.expression
  return "(" ++ e ++ ")" ++ clause (← oneOf ["STORED", "VIRTUAL"])

/-- The sequence of a column that is numbered, if it is described. -/
def identityOptions : Reader String := do
  if ← sign "(" then
    let options ← sequenceOptions
    needSign ")"
    return if options.isEmpty then "" else " (" ++ options ++ " )"
  else return ""

/-- How a generated column is computed; nothing when it is not said. -/
def generatedColumn (g : Grammar) : Reader (Option String) := do
  if ← words ["ALWAYS", "AS", "IDENTITY"] then
    return some ("GENERATED ALWAYS AS IDENTITY" ++ (← identityOptions))
  else if ← words ["BY", "DEFAULT", "AS", "IDENTITY"] then
    return some ("GENERATED BY DEFAULT AS IDENTITY" ++ (← identityOptions))
  else if ← words ["ALWAYS", "AS"] then
    if isSign "(" (← peek) then return some ("GENERATED ALWAYS AS " ++ (← computedValue g))
    else return none
  else return none

/-- An option of a column, if one comes next. -/
def columnOption (g : Grammar) : Reader (Option String) := do
  if ← words ["CHARACTER", "SET"] then return some ("CHARACTER SET " ++ (← objectName))
  else if ← words ["NOT", "NULL"] then return some "NOT NULL"
  else if ← word "COMMENT" then
    let l ← next
    match l.map Lexeme.token with
    | some (.literal .plain v) => return some ("COMMENT " ++ betweenQuotes '\'' v)
    | _ => unexpected "string" l
  else if ← word "NULL" then return some "NULL"
  else if ← word "DEFAULT" then return some ("DEFAULT " ++ (← g.expression))
  else if ← words ["PRIMARY", "KEY"] then return some ("PRIMARY KEY" ++ (← constraintTiming))
  else if ← word "UNIQUE" then return some ("UNIQUE" ++ (← constraintTiming))
  else if ← word "REFERENCES" then
    let table ← objectName
    let cols ← columns?
    let actions ← referentialActions
    let timing ← constraintTiming
    let cols := if cols.isEmpty then "" else " " ++ cols
    return some ("REFERENCES " ++ table ++ cols ++ actions ++ timing)
  else if ← word "CHECK" then
    return some ("CHECK (" ++ (← parenthesized g.expression) ++ ")")
  else if ← words ["ON", "UPDATE"] then return some ("ON UPDATE " ++ (← g.expression))
  else if ← word "GENERATED" then generatedColumn g
  else if ← word "AS" then return some ("AS " ++ (← computedValue g))
  else if ← word "IDENTITY" then
    if ← sign "(" then
      let seed ← concreteValue
      needSign ","
      let increment ← concreteValue
      needSign ")"
      return some ("IDENTITY(" ++ seed ++ ", " ++ increment ++ ")")
    else return some "IDENTITY"
  else oneOf ["AUTO_INCREMENT", "AUTOINCREMENT", "ASC", "DESC"]

/-- An option of a column with its name, if one comes next. -/
def namedColumnOption (g : Grammar) : Reader (Option String) := do
  if ← word "CONSTRAINT" then
    let name ← identifier
    match ← columnOption g with
    | some o => return some ("CONSTRAINT " ++ name ++ " " ++ o)
    | none => expected "constraint details after CONSTRAINT <name>"
  else columnOption g

/-- A collation or an option of a column. -/
inductive ColumnPart where
  | collation (name : String)
  | option (text : String)

/-- A part of a column's definition, if one comes next. -/
def columnPart (g : Grammar) : Reader (Option ColumnPart) := do
  match ← after "COLLATE" objectName with
  | some name => return some (.collation name)
  | none => return (← namedColumnOption g).map .option

/-- A column with its type and options. The last collation that is given counts. -/
def columnDefinition (g : Grammar) : Reader String := do
  let name ← identifier
  let t ← dataType
  let parts ← many (columnPart g)
  let collations := parts.filterMap fun
    | .collation c => some ("COLLATE " ++ c)
    | .option _ => none
  let options := parts.filterMap fun
    | .collation _ => none
    | .option o => some (" " ++ o)
  return name ++ " " ++ t.text ++ clause collations.getLast? ++ String.join options

/-- An identifier, if one comes next. -/
def identifier? : Reader (Option String) := do
  match (← peek).bind fun l => l.token.name? with
  | some name =>
    let _ ← next
    return some name
  | none => return none

/-- The method of an index, if it is named. -/
def indexMethod : Reader String := do
  if ← word "USING" then return " USING " ++ (← needOneOf ["BTREE", "HASH"]) else return ""

/-- The name, method and columns of a constraint on several columns. -/
def keyColumns : Reader String := do
  let name ← if (← peekWord) = some "USING" then pure none else identifier?
  let method ← indexMethod
  let cols ← columns
  return clause name ++ method ++ " " ++ cols

/-- A constraint on a table, if one comes next. -/
def tableConstraint (g : Grammar) : Reader (Option String) := do
  let name ← after "CONSTRAINT" identifier
  let named (text : String) : Option String :=
    some ((match name with
      | some n => "CONSTRAINT " ++ n ++ " "
      | none => "") ++ text)
  match ← peekWord with
  | some "UNIQUE" =>
    let _ ← next
    let kind := match ← oneOf ["KEY", "INDEX"] with
      | some w => " " ++ w
      | none => ""
    let key ← keyColumns
    return named ("UNIQUE" ++ kind ++ key ++ (← constraintTiming))
  | some "PRIMARY" =>
    let _ ← next
    need "KEY"
    let key ← keyColumns
    return named ("PRIMARY KEY" ++ key ++ (← constraintTiming))
  | some "FOREIGN" =>
    let _ ← next
    need "KEY"
    let cols ← columns
    need "REFERENCES"
    let table ← objectName
    let others ← columns
    let actions ← referentialActions
    let timing ← constraintTiming
    return named ("FOREIGN KEY " ++ cols ++ " REFERENCES " ++ table ++ others ++ actions ++ timing)
  | some "CHECK" =>
    let _ ← next
    let e ← parenthesized g.expression
    return named ("CHECK (" ++ e ++ ")")
  | some other =>
    if name.isSome then
      let l ← next
      unexpected "PRIMARY, UNIQUE, FOREIGN, or CHECK" l
    else if other = "INDEX" ∨ other = "KEY" then
      let _ ← next
      return some (other ++ (← keyColumns))
    else return none
  | none =>
    if name.isSome then
      let l ← next
      unexpected "PRIMARY, UNIQUE, FOREIGN, or CHECK" l
    else return none

/-- The columns and the constraints of a table, behind the opening parenthesis; at most `n` of
them. -/
def tableElementsUpTo (g : Grammar) : Nat → Reader (List String × List String)
  | 0 => return ([], [])
  | n + 1 => do
    let element ← match ← tableConstraint g with
      | some c => pure (Sum.inr c)
      | none =>
        match (← peek).map Lexeme.token with
        | some (.word _ _) => (do return Sum.inl (← columnDefinition g))
        | _ => expected "column name or constraint definition"
    let comma ← sign ","
    let close := isSign ")" (← peek)
    if !comma && !close then expected "',' or ')' after column definition"
    let (cols, constraints) ←
      if close && !comma then do
        let _ ← next
        pure ([], [])
      else tableElementsUpTo g n
    match element with
    | .inl c => return (c :: cols, constraints)
    | .inr c => return (cols, c :: constraints)

/-- The columns and constraints of a table, if they come next. -/
def tableElements (g : Grammar) : Reader (List String) := do
  if ← sign "(" then
    if ← sign ")" then return []
    let (cols, constraints) ← tableElementsUpTo g ((← get).length + 1)
    return cols ++ constraints
  else return []

/-- Options with values behind a keyword, if they come next. -/
def optionList (g : Grammar) (keyword : String) : Reader (Option String) := do
  let option : Reader String := do
    let name ← identifier
    needSign "="
    return name ++ " = " ++ (← g.expression)
  match ← after keyword (parenthesized (commaList option)) with
  | some items => return some (keyword ++ " (" ++ joined items ++ ")")
  | none => return none

/-- A setting of a table: a word behind an equals sign. -/
def tableSetting : Reader String := do
  needSign "="
  identifier

/-- A new table behind its keyword; `start` is what stands before the keyword. -/
def createTable (g : Grammar) (start : String) : Reader String := do
  let unless_ ← ifNotExists
  let name ← objectName
  let like ← match ← oneOf ["LIKE", "ILIKE"] with
    | some _ => maybe objectName
    | none => pure none
  let clone ← if ← word "CLONE" then maybe objectName else pure none
  let elements ← tableElements g
  let rowid := if ← words ["WITHOUT", "ROWID"] then " WITHOUT ROWID" else ""
  let options ← optionList g "WITH"
  let engine ← after "ENGINE" tableSetting
  let charset ← if ← words ["DEFAULT", "CHARSET"] then (do return some (← tableSetting))
    else pure none
  let strict := if ← word "STRICT" then " STRICT" else ""
  let q ← after "AS" g.query
  let body :=
    if elements.isEmpty then
      if q.isNone && like.isNone && clone.isNone then " ()" else ""
    else " (" ++ joined elements ++ ")"
  return "CREATE " ++ start ++ "TABLE " ++ unless_ ++ name ++ body ++ rowid
    ++ clause (like.map ("LIKE " ++ ·)) ++ clause (clone.map ("CLONE " ++ ·)) ++ clause options
    ++ clause (engine.map ("ENGINE=" ++ ·)) ++ clause (charset.map ("DEFAULT CHARSET=" ++ ·))
    ++ strict ++ clause (q.map ("AS " ++ ·))

/-- A new view behind its keyword; `start` is what stands before the keyword. -/
def createView (g : Grammar) (start : String) : Reader String := do
  let unless_ ← ifNotExists
  let name ← objectName
  let cols ← columns?
  let options ← optionList g "WITH"
  need "AS"
  let q ← g.query
  let binding := if ← words ["WITH", "NO", "SCHEMA", "BINDING"] then " WITH NO SCHEMA BINDING" else ""
  return "CREATE " ++ start ++ "VIEW " ++ unless_ ++ name
    ++ (if cols.isEmpty then "" else " " ++ cols) ++ clause options ++ " AS " ++ q ++ binding

/-- A new index behind its keyword; `start` is what stands before the keyword. -/
def createIndex (g : Grammar) (start : String) : Reader String := do
  let concurrently := if ← word "CONCURRENTLY" then "CONCURRENTLY " else ""
  let unless_ ← ifNotExists
  let onNow ← if unless_.isEmpty then word "ON" else pure false
  let name ←
    if onNow then pure ""
    else do
      let name ← objectName
      need "ON"
      pure (name ++ " ")
  let table ← objectName
  let method ← after "USING" identifier
  let terms ← parenthesized (commaList (orderTerm g))
  let included ← after "INCLUDE" (parenthesized (commaList identifier))
  let condition ← after "WHERE" g.expression
  let method := match method with
    | some m => " USING " ++ m ++ " "
    | none => ""
  return "CREATE " ++ start ++ "INDEX " ++ concurrently ++ unless_ ++ name ++ "ON " ++ table
    ++ method ++ "(" ++ String.intercalate "," terms ++ ")"
    ++ clause (included.map fun ns => "INCLUDE (" ++ String.intercalate "," ns ++ ")")
    ++ clause (condition.map ("WHERE " ++ ·))

/-- A definition behind `CREATE`; nothing for kinds that are not put into normal form. -/
def create (g : Grammar) : Reader (Option String) := do
  let replace ← words ["OR", "REPLACE"]
  let isLocal := if ← word "LOCAL" then "LOCAL " else ""
  let isGlobal := if ← word "GLOBAL" then "GLOBAL " else ""
  let transient := if ← word "TRANSIENT" then "TRANSIENT " else ""
  let temporary := match ← oneOf ["TEMP", "TEMPORARY"] with
    | some _ => "TEMPORARY "
    | none => ""
  let start := if replace then "OR REPLACE " else ""
  let reach := if isGlobal.isEmpty then isLocal else isGlobal
  if ← word "TABLE" then
    return some (← createTable g (start ++ reach ++ temporary ++ transient))
  else if ← word "VIEW" then return some (← createView g (start ++ temporary))
  else if ← word "MATERIALIZED" then
    need "VIEW"
    return some (← createView g (start ++ "MATERIALIZED " ++ temporary))
  else if (← oneOf ["EXTERNAL", "FUNCTION"]).isSome then return none
  else if ← word "TRIGGER" then return some (← createTrigger g start)
  else if ← words ["CONSTRAINT", "TRIGGER"] then
    return some (← createTrigger g (start ++ "CONSTRAINT "))
  else if (← oneOf ["MACRO", "SECRET"]).isSome then return none
  else if replace then
    expected "[EXTERNAL] TABLE or [MATERIALIZED] VIEW or FUNCTION after CREATE OR REPLACE"
  else if ← word "INDEX" then return some (← createIndex g "")
  else if ← words ["UNIQUE", "INDEX"] then return some (← createIndex g "UNIQUE ")
  else if ← word "SCHEMA" then
    let unless_ ← ifNotExists
    let owner ← if ← word "AUTHORIZATION" then (do return some (← identifier)) else pure none
    match owner with
    | some o => return some ("CREATE SCHEMA " ++ unless_ ++ "AUTHORIZATION " ++ o)
    | none =>
      let name ← objectName
      let owner ← after "AUTHORIZATION" identifier
      return some ("CREATE SCHEMA " ++ unless_ ++ name ++ clause (owner.map ("AUTHORIZATION " ++ ·)))
  else if ← word "DATABASE" then
    let unless_ ← ifNotExists
    return some ("CREATE DATABASE " ++ unless_ ++ (← objectName))
  else if ← word "EXTENSION" then return some (← createExtension)
  else if ← word "VIRTUAL" then return some (← createVirtualTable)
  else if ← word "SEQUENCE" then return some (← createSequence temporary)
  else if ← word "TYPE" then return some (← createType)
  else if (← oneOf ["ROLE", "PROCEDURE"]).isSome then return none
  else expected "an object type after CREATE"

/-- A statement behind `DROP`; nothing for kinds that are not put into normal form. -/
def drop (g : Grammar) : Reader (Option String) := do
  let temporary := if ← word "TEMPORARY" then "TEMPORARY " else ""
  match ← oneOf ["TABLE", "VIEW", "INDEX", "ROLE", "SCHEMA", "SEQUENCE", "STAGE"] with
  | some kind =>
    let when_ ← ifExists
    let names ← commaList objectName
    let place ← place
    let cascade ← word "CASCADE"
    let restrict ← word "RESTRICT"
    let purge ← word "PURGE"
    if cascade && restrict then
      throw (.refused "Cannot specify both CASCADE and RESTRICT in DROP" place)
    if kind = "ROLE" ∧ (cascade || restrict || purge) then
      throw (.refused "Cannot specify CASCADE, RESTRICT, or PURGE in DROP ROLE" place)
    return some ("DROP " ++ temporary ++ kind ++ " " ++ when_ ++ joined names
      ++ (if cascade then " CASCADE" else "") ++ (if restrict then " RESTRICT" else "")
      ++ (if purge then " PURGE" else ""))
  | none =>
    match ← oneOf ["FUNCTION", "PROCEDURE", "SECRET", "TRIGGER"] with
    | some "TRIGGER" => return some (← dropTrigger)
    | some "SECRET" => return none
    | some kind => return some (← dropRoutines g kind)
    | none =>
      expected ("TABLE, VIEW, INDEX, ROLE, SCHEMA, FUNCTION, PROCEDURE, STAGE, TRIGGER, SECRET "
        ++ "or SEQUENCE after DROP")

/-- A change of one column, behind its name. -/
def columnChange (g : Grammar) : Reader String := do
  if ← words ["SET", "NOT", "NULL"] then return "SET NOT NULL"
  else if ← words ["DROP", "NOT", "NULL"] then return "DROP NOT NULL"
  else if ← words ["SET", "DEFAULT"] then return "SET DEFAULT " ++ (← g.expression)
  else if ← words ["DROP", "DEFAULT"] then return "DROP DEFAULT"
  else if ← words ["SET", "DATA", "TYPE"] then return "SET DATA TYPE " ++ (← dataType).text
  else expected "SET/DROP NOT NULL, SET DEFAULT, or SET DATA TYPE after ALTER COLUMN"

/-- One change of a table. -/
def tableChange (g : Grammar) : Reader String := do
  if ← word "ADD" then
    match ← tableConstraint g with
    | some c => return "ADD " ++ c
    | none =>
      let column := if ← word "COLUMN" then "COLUMN " else ""
      let unless_ ← ifNotExists
      let definition ← columnDefinition g
      let position ←
        if ← word "FIRST" then pure " FIRST"
        else if ← word "AFTER" then (do return " AFTER " ++ (← identifier))
        else pure ""
      return "ADD " ++ column ++ unless_ ++ definition ++ position
  else if ← word "RENAME" then
    if ← word "TO" then return "RENAME TO " ++ (← objectName)
    else
      let _ ← word "COLUMN"
      let old ← identifier
      need "TO"
      return "RENAME COLUMN " ++ old ++ " TO " ++ (← identifier)
  else if ← word "DROP" then
    let cascade : Reader String := do return if ← word "CASCADE" then " CASCADE" else ""
    if ← word "CONSTRAINT" then
      let when_ ← ifExists
      let name ← identifier
      return "DROP CONSTRAINT " ++ when_ ++ name ++ (← cascade)
    else if ← words ["PRIMARY", "KEY"] then return "DROP PRIMARY KEY"
    else
      let _ ← word "COLUMN"
      let when_ ← ifExists
      let name ← identifier
      return "DROP COLUMN " ++ when_ ++ name ++ (← cascade)
  else if ← word "ALTER" then
    let _ ← word "COLUMN"
    let name ← identifier
    return "ALTER COLUMN " ++ name ++ " " ++ (← columnChange g)
  else expected "ADD, RENAME, PARTITION, SWAP, DROP, or SET TBLPROPERTIES after ALTER TABLE"

/-- A statement behind `ALTER`; nothing for kinds that are not put into normal form. -/
def alter (g : Grammar) : Reader (Option String) := do
  match ← needOneOf ["VIEW", "TABLE", "INDEX", "ROLE"] with
  | "TABLE" =>
    let when_ ← ifExists
    let only := if ← word "ONLY" then "ONLY " else ""
    let name ← objectName
    let changes ← commaList (tableChange g)
    return some ("ALTER TABLE " ++ when_ ++ only ++ name ++ " " ++ joined changes)
  | "VIEW" =>
    let name ← objectName
    let cols ← columns?
    need "AS"
    let q ← g.query
    return some ("ALTER VIEW " ++ name ++ (if cols.isEmpty then "" else " " ++ cols) ++ " AS " ++ q)
  | "INDEX" =>
    let name ← objectName
    if ← word "RENAME" then
      if ← word "TO" then return some ("ALTER INDEX " ++ name ++ " RENAME TO " ++ (← objectName))
      else expected "TO after RENAME"
    else expected "RENAME after ALTER INDEX"
  | _ => return none

/-- A statement behind `TRUNCATE`. -/
def truncate : Reader String := do
  let table := if ← word "TABLE" then "TABLE " else ""
  let only := if ← word "ONLY" then "ONLY " else ""
  let names ← commaList objectName
  let sequences ←
    if ← words ["RESTART", "IDENTITY"] then pure " RESTART IDENTITY"
    else if ← words ["CONTINUE", "IDENTITY"] then pure " CONTINUE IDENTITY"
    else pure ""
  let others := match ← oneOf ["CASCADE", "RESTRICT"] with
    | some w => " " ++ w
    | none => ""
  return "TRUNCATE " ++ table ++ only ++ joined names ++ sequences ++ others

end Reader
end Sql
end SqlCells
