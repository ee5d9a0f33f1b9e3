import SqlCells.Sql.Normal.Statement
import SqlCells.Database.Engine
import SqlCells.Database.Mock
import SqlCells.Url.Parser
import SqlCells.Text.Distance
import SqlCells.Number.Integer

/-!
# Opening connections

A connection string names a dialect by its scheme; connection arguments become query parameters.
Stand-ins are part of this library.  Whether another database can be opened, and what it answers then, is
for the engines to say, which are given.  Without engines it is still decided whether paths and URLs are
well formed.
-/

namespace SqlCells
namespace Connect

/-- Connection arguments, sorted by key. -/
abbrev Arguments := List (String × Json)

/-- The text of an argument: a string is itself, anything else its JSON text. -/
def argumentText : Json → List Char
  | .string s => s.toList
  | v => v.compact

/-- The connection string with the arguments as query parameters. A path without structure is put
behind three slashes, so that parameters can follow it. -/
def applyArguments (arguments : Arguments) (url : String) : Except Fault String :=
  if arguments.isEmpty then .ok url
  else
    match Url.parse url.toList with
    | .error f =>
      .error (.badConnectionString (String.ofList (Url.maskPassword url.toList)) f.message)
    | .ok u =>
      let structured :=
        if u.isOpaque then Url.parse (u.scheme ++ [':', '/', '/', '/'] ++ u.path) else .ok u
      match structured with
      | .error f => .error (.argumentsNotAddable url f.message)
      | .ok u =>
        let pairs := arguments.map fun (key, value) => (key.toList, argumentText value)
        .ok (String.ofList (u.addPairs pairs).text)

/-- Dialects without a driver here, and the package that has one. -/
def unbundled : List (String × String) :=
  [("mysql", "sqlx-mysql"), ("mariadb", "sqlx-mysql"), ("duckdb", "duckdb"), ("mssql", "tiberius"),
   ("oracle", "oracle"), ("clickhouse", "clickhouse"), ("snowflake", "snowflake-connector"),
   ("bigquery", "gcp-bigquery-client"), ("redshift", "sqlx-postgres")]

/-- Dialects with a driver here. -/
def bundled : List String :=
  ["sqlite", "postgres", "postgresql", "mock"]

/-- The refusal of a dialect without a driver. -/
def missingDriver (name : String) : Fault :=
  match unbundled.lookup name with
  | some package => .driverNotBundled name package
  | none =>
    let known := (unbundled.map Prod.fst ++ bundled).map String.toList
    .unknownDriver name ((Text.closest name.toList known).map String.ofList) bundled

/-- What opens the databases that connection strings name. -/
structure Engines where
  /-- What is wrong with the path of a SQLite database and the parameters behind it. -/
  sqliteFlaw? : String → Option String
  /-- Opens the SQLite database at a path, or tells why it cannot be opened. -/
  sqlite : String → Except String Engine
  /-- An attempt to reach the Postgres server of a URL; attempts are counted from one. -/
  postgres : (attempt : Nat) → String → Except String Engine

/-! ## Without engines -/

/-- Why a statement is not run where there is no engine. A flaw of the statement goes first: it ends
too early, or a token cannot stand where it does. -/
def notRun (sql : String) : String :=
  match Sql.normalForms sql.toList with
  | .error (.expected _ none) => "incomplete input"
  | .error (.expected _ (some (token, _))) => "near \"" ++ token.label ++ "\": syntax error"
  | _ => "no database engine"

/-- The decoded query parameters of a text. -/
def queryParameters (query : List Char) : List (String × String) :=
  (Url.decodedPairs query).map fun (key, value) => (String.ofList key, String.ofList value)

/-- What a driver says about a parameter with a value it does not know. -/
def unknownValue (value parameter : String) : String :=
  "unknown value " ++ Fault.inQuotes value ++ " for `" ++ parameter ++ "`"

/-- What is wrong with a parameter of an in-memory database. -/
def sqliteParameterFlaw? (key value : String) : Option String :=
  let oneOf (values : List String) : Option String :=
    if values.contains value then none else some (unknownValue value key)
  match key with
  | "mode" => oneOf ["ro", "rw", "rwc", "memory"]
  | "cache" => oneOf ["private", "shared"]
  | "immutable" => oneOf ["true", "1", "false", "0"]
  | "vfs" => none
  | _ => some ("unknown query parameter `" ++ key ++ "` while parsing connection URL")

/-- What drivers put in front of a flaw of the URL. -/
def withConfiguration (flaw : String) : String :=
  "error with configuration: " ++ flaw

/-- What is wrong with the parameters behind the path of a SQLite database. -/
def sqliteFlaw? (path : String) : Option String :=
  let parameters := match Text.splitOnce ['?'] path.toList with
    | some (_, query) => queryParameters query
    | none => []
  parameters.findSome? fun (key, value) => sqliteParameterFlaw? key value

/-- What is wrong with a whole number in a parameter; `bound` is the first number too large. -/
def numberFlaw? (bound : Nat) (value : String) : Option String :=
  let digits := match value.toList with
    | '+' :: rest => rest
    | s => s
  if value.isEmpty then some "cannot parse integer from empty string"
  else if digits.isEmpty || !digits.all Char.isDigit then some "invalid digit found in string"
  else if (Number.readBelow? bound digits).isNone then
    some "number too large to fit in target type"
  else none

/-- What is wrong with a parameter of a Postgres URL. -/
def postgresParameterFlaw? (key value : String) : Option String :=
  match key with
  | "sslmode" | "ssl-mode" =>
    let modes := ["disable", "allow", "prefer", "require", "verify-ca", "verify-full"]
    if modes.contains (String.ofList (Text.asciiLower value.toList)) then none
    else some (withConfiguration (unknownValue value "ssl_mode"))
  | "statement-cache-capacity" => numberFlaw? UInt64.size value
  | "port" => numberFlaw? UInt16.size value
  | "hostaddr" =>
    if (Url.embedded4? value.toList).isSome || (Url.address6? value.toList).isSome then none
    else some "invalid IP address syntax"
  | _ => none

/-- What is wrong with a Postgres URL. -/
def postgresFlaw? (url : List Char) : Option String :=
  match Url.parse url with
  | .error f => some f.message
  | .ok u =>
    (queryParameters (u.query.getD [])).findSome? fun (key, value) =>
      postgresParameterFlaw? key value

/-- Databases without engines: one of SQLite opens if its parameters are in order, and refuses every
statement; a server is never reached. -/
def Engines.absent : Engines where
  sqliteFlaw? path := (Connect.sqliteFlaw? path).map withConfiguration
  sqlite _ := .ok { send := fun _ sql => [.failed { message := notRun sql }], columns := fun _ _ => [] }
  postgres _ url :=
    .error (match postgresFlaw? url.toList with
      | some flaw => withConfiguration flaw
      | none => "connection refused")

/-! ## Opening -/

/-- The path of a SQLite database and its parameters, as its URL names them. -/
def sqlitePath (url : List Char) : List Char :=
  let rest := match Text.splitOnce [':', '/', '/'] url with
    | some (_, rest) => rest
    | none => ((Text.splitOnce [':'] url).map Prod.snd).getD []
  let (place, query) := match Text.splitOnce ['?'] rest with
    | some (place, query) => (place, '?' :: query)
    | none => (rest, [])
  let inMemory := ":memory:".toList
  let path :=
    if place.isEmpty || place == inMemory || place == '/' :: inMemory then inMemory
    else (Text.dropPrefix? ['/'] place).getD place
  path ++ query

/-- Opens a SQLite database. -/
def openSqlite (engines : Engines) (url : String) (dialect : Dialect) : Except Fault Client :=
  let path := String.ofList (sqlitePath url.toList)
  match engines.sqliteFlaw? path with
  | some flaw => .error (.databaseUnavailable ("Invalid SQLite connection string: " ++ flaw))
  | none =>
    match engines.sqlite path with
    | .error reason => .error (.databaseUnavailable ("Cannot open SQLite database: " ++ reason))
    | .ok engine => .ok { dialect, url, driver := engine.driver .sqlite dialect }

/-- Whether a reason mentions something, case aside. -/
def mentions (reason part : String) : Bool :=
  Text.contains (Text.lower reason.toList) part.toList

/-- Whether it may help to try again. -/
def isTransient (reason : String) : Bool :=
  let lasting := ["password authentication failed", "authentication failed", "does not exist"]
  let passing := ["connection refused", "timed out", "timeout", "temporarily unavailable",
    "connection reset", "broken pipe"]
  !lasting.any (mentions reason) && passing.any (mentions reason)

/-- Reaches a server in one attempt, or in up to `more` further ones while the reasons are transient. -/
def reach (engines : Engines) (url : String) (attempt : Nat) : (more : Nat) → Except String Engine
  | 0 => engines.postgres attempt url
  | more + 1 =>
    match engines.postgres attempt url with
    | .ok engine => .ok engine
    | .error reason =>
      if isTransient reason then reach engines url (attempt + 1) more else .error reason

/-- The refusal of a Postgres URL for which the driver gives a reason: a recognised reason is worded
anew, with the parts of the URL that matter. -/
def postgresRefusal (url : List Char) (reason : String) : Fault :=
  let parsed := (Url.parse url).toOption
  let host := (parsed.bind fun u => u.host.text?).getD "localhost".toList
  let port := (parsed.bind fun u => u.port).getD 5432
  let nonEmpty (s : List Char) : Option (List Char) := if s.isEmpty then none else some s
  let user := (parsed.bind fun u => nonEmpty u.username).getD "unknown".toList
  let database :=
    (parsed.bind fun u => nonEmpty (u.path.dropWhile (· == '/'))).getD "unknown".toList
  let place := String.ofList host ++ ":" ++ toString port
  .databaseUnavailable <|
    if mentions reason "connection refused" || mentions reason "could not connect" then
      "Cannot connect to " ++ place ++ ". Check that the server is running."
    else if mentions reason "authentication failed" then
      "Authentication failed for user '" ++ String.ofList user ++ "'. Check your credentials."
    else if mentions reason "does not exist" && mentions reason "database" then
      "Database '" ++ String.ofList database ++ "' does not exist."
    else if mentions reason "ssl" || mentions reason "tls" then
      "Server requires SSL. Add '?sslmode=require' to connection string."
    else if mentions reason "timed out" || mentions reason "timeout" then
      "Connection to " ++ place ++ " timed out. The server may be overloaded or unreachable."
    else reason

/-- Opens a Postgres connection, in three attempts at most. -/
def openPostgres (engines : Engines) (url : String) (dialect : Dialect) : Except Fault Client :=
  let plain := match Text.splitOnce [':', '/', '/'] url.toList with
    | some (_, rest) => "postgres://".toList ++ rest
    | none => url.toList
  match reach engines (String.ofList plain) 1 2 with
  | .ok engine => .ok { dialect, url, driver := engine.driver .postgres dialect }
  | .error reason => .error (postgresRefusal plain reason)

/-- Opens the connection that a connection string and arguments name. -/
def openUrl (url : String) (arguments : Arguments) (engines : Engines := .absent) :
    Except Fault Client := do
  match Url.schemeOf? url.toList with
  | none => throw (.notAConnectionString url)
  | some scheme =>
    let dialect := Dialect.ofScheme (String.ofList scheme)
    let full ← applyArguments arguments url
    match dialect.name with
    | "sqlite" => openSqlite engines full dialect
    | "postgres" | "postgresql" => openPostgres engines full dialect
    | "mock" => return (Mock.ofUrl full).client
    | other => throw (missingDriver other)

end Connect
end SqlCells
