import SqlCells.Database.Client
import SqlCells.Text.Words

/-!
# Backslash commands

Catalog commands of the Postgres family, answered by queries on the information schema.  In a pattern
a star stands for any text and a question mark for any character.
-/

namespace SqlCells
namespace MetaCommand

/-- A pattern as the string of a `LIKE` condition. -/
def likePattern (pattern : List Char) : List Char :=
  Value.sqlString (pattern.map fun c => if c = '*' then '%' else if c = '?' then '_' else c)

/-- The schema and the name of a relation, cut at the first point. -/
def qualified (name : List Char) : Option (List Char) × List Char :=
  match Text.splitOnce ['.'] name with
  | some (schema, relation) => (some schema, relation)
  | none => (none, name)

/-- The query that lists relations of the given types whose name fits a pattern. -/
def listRelations (types : List String) (pattern : Option (List Char)) : List Char :=
  let types := Text.joinWith [',', ' '] (types.map fun t => Value.sqlString t.toList)
  let conditions := match pattern with
    | none => []
    | some p =>
      let (schema, relation) := qualified p
      (match schema with
       | some s => " AND table_schema LIKE ".toList ++ likePattern s
       | none => []) ++ " AND table_name LIKE ".toList ++ likePattern relation
  ("SELECT table_schema AS \"Schema\", table_name AS \"Name\", "
    ++ "CASE table_type WHEN 'BASE TABLE' THEN 'table' WHEN 'VIEW' THEN 'view' "
    ++ "ELSE lower(table_type) END AS \"Type\" "
    ++ "FROM information_schema.tables "
    ++ "WHERE table_type IN (").toList ++ types
    ++ ") AND table_schema NOT IN ('pg_catalog', 'information_schema')".toList
    ++ conditions ++ " ORDER BY 1, 2".toList

/-- The query that describes the columns of a relation. -/
def describeRelation (name : List Char) : List Char :=
  let (schema, relation) := qualified (Text.dropSemicolons name)
  ("SELECT column_name AS \"Column\", data_type AS \"Type\", "
    ++ "CASE WHEN is_nullable = 'NO' THEN 'not null' ELSE '' END AS \"Nullable\", "
    ++ "COALESCE(column_default, '') AS \"Default\" "
    ++ "FROM information_schema.columns "
    ++ "WHERE table_name = ").toList ++ Value.sqlString relation
    ++ (match schema with
        | some s => " AND table_schema = ".toList ++ Value.sqlString s
        | none => [])
    ++ " ORDER BY ordinal_position".toList

/-- The query that lists schemas. -/
def listSchemas : List Char :=
  ("SELECT schema_name AS \"Name\", schema_owner AS \"Owner\" "
    ++ "FROM information_schema.schemata "
    ++ "WHERE left(schema_name, 3) <> 'pg_' AND schema_name <> 'information_schema' "
    ++ "ORDER BY 1").toList

/-- The query that lists databases. -/
def listDatabases : List Char :=
  ("SELECT datname AS \"Name\", "
    ++ "pg_catalog.pg_get_userbyid(datdba) AS \"Owner\", "
    ++ "pg_catalog.pg_encoding_to_char(encoding) AS \"Encoding\" "
    ++ "FROM pg_catalog.pg_database WHERE NOT datistemplate ORDER BY 1").toList

/-- The query that answers a command. -/
def translate (command : List Char) : Except Fault (List Char) :=
  let words := Text.words (Text.dropSemicolons (Text.trim command))
  let name := words.head?.getD []
  let argument := words[1]?
  match String.ofList name with
  | "\\dt" | "\\dt+" => .ok (listRelations ["BASE TABLE"] argument)
  | "\\dv" | "\\dv+" => .ok (listRelations ["VIEW"] argument)
  | "\\d" | "\\d+" =>
    match argument with
    | none => .ok (listRelations ["BASE TABLE", "VIEW"] none)
    | some relation => .ok (describeRelation relation)
  | "\\dn" | "\\dn+" => .ok listSchemas
  | "\\l" | "\\l+" | "\\list" => .ok listDatabases
  | other => .error (.unsupportedMetaCommand other)

/-- Whether a command describes a relation, by what it starts with. -/
def describes (command : List Char) : Bool :=
  let c := Text.trim command
  Text.startsWith c "\\d ".toList || Text.startsWith c "\\d+ ".toList

/-- Answers a command. A relation without columns does not exist. -/
def run (command : List Char) : Talk RawResult := do
  let sql ← translate command
  let result ← Talk.execute (String.ofList sql) none
  if describes command && result.rows.isEmpty then
    let relation := (Text.words command)[1]?.getD []
    throw (.relationNotFound (String.ofList (Text.dropSemicolons relation)))
  return result

end MetaCommand
end SqlCells
