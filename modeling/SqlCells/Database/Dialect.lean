import SqlCells.Text.Case
import SqlCells.Text.Words

/-!
# Dialects

The families of database dialects, what each can do, and how names are quoted in it.  A dialect is
recognised once, from the scheme of a connection's URL; everything else asks its capabilities.
-/

namespace SqlCells

/-- Dialects that share their syntax, quoting and transaction conventions. -/
inductive Family where
  | postgres
  | mySql
  | sqlite
  | duckDb
  | clickHouse
  | bigQuery
  | mssql
  | athena
  | teradata
  | vertica
  | ingres
  | spark
  | oracle
  | snowflake
  | other
  deriving DecidableEq, Repr

/-- The family of a dialect name in lower case. -/
def Family.ofName (name : String) : Family :=
  match name with
  | "postgres" | "postgresql" | "redshift" => .postgres
  | "mysql" | "mariadb" => .mySql
  | "sqlite" => .sqlite
  | "duckdb" => .duckDb
  | "clickhouse" => .clickHouse
  | "bigquery" => .bigQuery
  | "mssql" | "tsql" => .mssql
  | "athena" | "awsathena" => .athena
  | "teradata" | "teradatasql" => .teradata
  | "vertica" => .vertica
  | "ingres" => .ingres
  | "spark" | "hive" | "databricks" => .spark
  | "oracle" => .oracle
  | "snowflake" => .snowflake
  | _ => .other

/-- What a dialect can and cannot do. -/
structure Capabilities where
  /-- Names in a chain of snippets may be quoted with backticks. -/
  backticks : Bool := false
  /-- A `COMMIT` breaks the session and is never sent. -/
  rejectsCommit : Bool := false
  /-- Autocommit stays off whatever the settings say. -/
  disablesAutocommit : Bool := false
  /-- The driver can build a frame itself. -/
  nativeFrames : Bool := false
  /-- Backslash commands mean something. -/
  metaCommands : Bool := false
  deriving DecidableEq, Repr

/-- The capabilities of a family. -/
def Family.capabilities : Family → Capabilities
  | .postgres => { metaCommands := true }
  | .mySql | .sqlite | .spark => { backticks := true }
  | .duckDb => { nativeFrames := true }
  | .clickHouse | .bigQuery => { backticks := true, rejectsCommit := true }
  | .mssql | .athena | .teradata | .vertica | .ingres => { rejectsCommit := true }
  | .oracle | .snowflake | .other => {}

/-- How the names of snippets are quoted in a chain. -/
inductive NameQuoting where
  | bare
  | backtick
  deriving DecidableEq, Repr

/-- A name as it stands in a chain. -/
def NameQuoting.quote (q : NameQuoting) (name : List Char) : List Char :=
  match q with
  | .bare => name
  | .backtick => '`' :: name ++ ['`']

/-- The dialect of a connection. -/
structure Dialect where
  name : String
  /-- The driver, when the URL names one. -/
  driver : Option String
  family : Family
  caps : Capabilities
  deriving DecidableEq, Repr

namespace Dialect

/-- A name in lower case. -/
def lowered (s : String) : String :=
  String.ofList (Text.lower s.toList)

/-- The dialect of a name and a driver. One driver cannot run in autocommit mode. -/
def ofName (name : String) (driver : Option String) : Dialect :=
  let family := Family.ofName (lowered name)
  let noAutocommit := match driver with
    | some d => Text.eqIgnoringAsciiCase d.toList "pytds".toList
    | none => false
  { name := lowered name
    driver := driver.map lowered
    family
    caps := { family.capabilities with disablesAutocommit := noAutocommit } }

/-- The dialect of a URL scheme: a name, and after a plus sign a driver. -/
def ofScheme (scheme : String) : Dialect :=
  match Text.splitOnce ['+'] scheme.toList with
  | some (name, driver) => ofName (String.ofList name) (some (String.ofList driver))
  | none => ofName scheme none

/-- How names of snippets are quoted in this dialect. -/
def nameQuoting (d : Dialect) : NameQuoting :=
  if d.caps.backticks then .backtick else .bare

/-- Whether the dialect is of the family of Postgres. -/
def isPostgres (d : Dialect) : Bool :=
  d.family == .postgres

/-- The name of the dialect with its driver. -/
def label (d : Dialect) : String :=
  match d.driver with
  | some driver => d.name ++ "+" ++ driver
  | none => d.name

end Dialect
end SqlCells
