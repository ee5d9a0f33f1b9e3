import SqlCells.Sql.Normal.Transaction

/-!
# Settings

Statements that show and change the settings of a session or of the database engine, or that list
what a database holds.
-/

namespace SqlCells
namespace Sql
namespace Reader

/-- Which of the listed things are shown, if it is said. -/
def shownFilter (g : Grammar) : Reader String := do
  if ← word "LIKE" then return " LIKE " ++ betweenQuotes '\'' (← literalText)
  else if ← word "ILIKE" then return " ILIKE " ++ betweenQuotes '\'' (← literalText)
  else return clause ((← after "WHERE" g.expression).map ("WHERE " ++ ·))

/-- The columns of a table, behind their keyword. A table of another database is written with the
name of the database in front. -/
def shownColumns (g : Grammar) : Reader String := do
  let _ ← needOneOf ["FROM", "IN"]
  let table ← objectName
  let table ← match ← oneOf ["FROM", "IN"] with
    | some _ => (do return (← identifier) ++ "." ++ table)
    | none => pure table
  return "COLUMNS FROM " ++ table ++ (← shownFilter g)

/-- The tables of a database, behind their keyword. -/
def shownTables (g : Grammar) : Reader String := do
  let database ← match ← oneOf ["FROM", "IN"] with
    | some _ => (do return " FROM " ++ (← identifier))
    | none => pure ""
  return "TABLES" ++ database ++ (← shownFilter g)

/-- The words up to an equals sign or the end of the text; other signs are passed over. -/
def remainingWords : List Lexeme → List String
  | [] => []
  | l :: rest =>
    if l.token = .symbol "=" then []
    else match l.token with
      | .word _ _ => (l.token.name?).getD "" :: remainingWords rest
      | _ => remainingWords rest

/-- A statement behind `SHOW`. -/
def showing (g : Grammar) : Reader String := do
  let extended ← word "EXTENDED"
  let full ← word "FULL"
  let session ← word "SESSION"
  let global ← word "GLOBAL"
  let start := "SHOW " ++ (if extended then "EXTENDED " else "") ++ (if full then "FULL " else "")
  let reach := "SHOW " ++ (if global then "GLOBAL " else "") ++ (if session then "SESSION " else "")
  if (← oneOf ["COLUMNS", "FIELDS"]).isSome then return start ++ (← shownColumns g)
  else if ← word "TABLES" then return start ++ (← shownTables g)
  else if ← word "FUNCTIONS" then return "SHOW FUNCTIONS" ++ (← shownFilter g)
  else if extended || full then
    throw (.refused "EXTENDED/FULL are not supported with this type of SHOW query" none)
  else if ← word "CREATE" then
    let kind ← needOneOf ["TABLE", "TRIGGER", "FUNCTION", "PROCEDURE", "EVENT", "VIEW"]
    return "SHOW CREATE " ++ kind ++ " " ++ (← objectName)
  else if ← word "COLLATION" then return "SHOW COLLATION" ++ (← shownFilter g)
  else if ← word "VARIABLES" then return reach ++ "VARIABLES" ++ (← shownFilter g)
  else if ← word "STATUS" then return reach ++ "STATUS" ++ (← shownFilter g)
  else
    let ls ← get
    set (ls.dropWhile fun l => l.token ≠ .symbol "=")
    return String.intercalate " " ("SHOW" :: remainingWords ls)

/-- The values of a setting: one or more, in parentheses if the names are. -/
def settingValues (g : Grammar) (many : Bool) : Reader String := do
  let value : Reader String := do
    match ← maybe g.expression with
    | some e => return e
    | none => expected "variable value"
  if many then return "(" ++ joined (← parenthesized (commaList value)) ++ ")"
  else return joined (← commaList value)

/-- The role of a session, behind its keyword. -/
def roleSetting (scope : Option String) : Reader String := do
  let role ← if ← word "NONE" then pure "NONE" else identifier
  return "SET" ++ clause scope ++ " ROLE " ++ role

/-- The character set of a session, behind its keyword. -/
def namesSetting : Reader String := do
  if ← word "DEFAULT" then return "SET NAMES DEFAULT"
  else
    let charset ← literalText
    return "SET NAMES " ++ charset ++ clause ((← after "COLLATE" literalText).map ("COLLATE " ++ ·))

/-- What is set without a sign between its name and its value. -/
def unassignedSetting (g : Grammar) (scope : Option String) (name : String) : Reader String := do
  let isLocal := if scope = some "LOCAL" then "LOCAL " else ""
  if Text.eqIgnoringAsciiCase name.toList "timezone".toList then
    match ← maybe g.expression with
    | some e => return "SET " ++ isLocal ++ "TIME ZONE " ++ e
    | none => expected "timezone value"
  else if name = "CHARACTERISTICS" then
    needAll ["AS", "TRANSACTION"]
    return "SET SESSION CHARACTERISTICS AS TRANSACTION" ++ clause (← transactionModes)
  else if name = "TRANSACTION" ∧ scope = none then
    if ← word "SNAPSHOT" then return "SET TRANSACTION SNAPSHOT " ++ (← concreteValue)
    else return "SET TRANSACTION" ++ clause (← transactionModes)
  else expected "equals sign or TO"

/-- A statement behind `SET`. -/
def setting (g : Grammar) : Reader String := do
  let scope ← oneOf ["SESSION", "LOCAL"]
  let isLocal := if scope = some "LOCAL" then "LOCAL " else ""
  match ← maybe (after "ROLE" (roleSetting scope)) with
  | some (some role) => return role
  | _ =>
    let zone ← words ["TIME", "ZONE"]
    let many ← if zone then pure false else pure (isSign "(" (← peek))
    let name ←
      if zone then pure "TIMEZONE"
      else if many then (do return "(" ++ joined (← parenthesized (commaList identifier)) ++ ")")
      else objectName
    if Text.eqIgnoringAsciiCase name.toList "names".toList then namesSetting
    else
      let equals ← if ← sign "=" then pure true else word "TO"
      if equals then return "SET " ++ isLocal ++ name ++ " = " ++ (← settingValues g many)
      else if many then expected "set variable"
      else unassignedSetting g scope name

/-- A setting of the database engine, behind its keyword. -/
def pragma : Reader String := do
  let name ← objectName
  let value : Reader String := do
    let l ← peek
    let v ← concreteValue
    match l.map Lexeme.token with
    | some (.number _ _) | some (.literal .plain _) | some (.placeholder _)
    | some (.word _ (some _)) => return v
    | _ => unexpected "number or string or ? placeholder" l
  if ← sign "(" then
    let v ← value
    needSign ")"
    return "PRAGMA " ++ name ++ "(" ++ v ++ ")"
  else if ← sign "=" then return "PRAGMA " ++ name ++ " = " ++ (← value)
  else return "PRAGMA " ++ name

end Reader
end Sql
end SqlCells
