import SqlCells.Database.Connect

/-!
# Registered connections

Open connections by key: the alias that was given, or the URL.  One of them is current, and commands
that name no connection run on it.
-/

namespace SqlCells

/-- A registered connection. -/
structure Connection where
  /-- The alias if there is one, otherwise the URL. -/
  key : String
  /-- The name shown: user and database. -/
  name : String
  url : String
  aliasName : Option String
  client : ClientId
  deriving DecidableEq, Repr

/-- The user and the database of a URL around an at sign; a text without either is its own name. -/
def displayName (url : String) : String :=
  match Url.parse url.toList with
  | .error _ => url
  | .ok u =>
    let database := u.path.dropWhile (· == '/')
    if u.username.isEmpty && database.isEmpty then url
    else String.ofList (u.username ++ '@' :: database)

namespace Connection

/-- A client as a registered connection. -/
def ofClient (clients : Clients) (id : ClientId) (aliasName : Option String) : Connection :=
  let url := clients.url id
  { key := aliasName.getD url, name := displayName url, url, aliasName, client := id }

/-- The diagnostic text of a connection. -/
def debugText (c : Connection) : String :=
  "Connection \x7b key: " ++ Fault.inQuotes c.key ++ ", name: " ++ Fault.inQuotes c.name
    ++ ", alias: " ++ (match c.aliasName with
      | some a => "Some(" ++ Fault.inQuotes a ++ ")"
      | none => "None") ++ " \x7d"

end Connection

/-- Registered connections, sorted by key, and the key of the current one. -/
structure Registry where
  connections : List Connection := []
  current : Option String := none
  deriving DecidableEq, Repr

/-- What a command asks to connect to. -/
inductive Target where
  | connectString (url : String)
  /-- An open connection. -/
  | client (id : ClientId)
  /-- A registered connection. -/
  | key (key : String)
  deriving DecidableEq, Repr

/-- How a new connection is opened and registered. -/
structure OpenOptions where
  arguments : Connect.Arguments := []
  aliasName : Option String := none
  /-- An open connection that is registered instead of opening a new one. -/
  creator : Option ClientId := none
  engines : Connect.Engines := .absent

namespace Registry

/-- The connection with a key. -/
def find? (r : Registry) (key : String) : Option Connection :=
  r.connections.find? fun c => c.key == key

/-- The keys, sorted. -/
def keys (r : Registry) : List String :=
  r.connections.map Connection.key

/-- Puts a connection in its place among connections sorted by key; one with an equal key is
replaced. -/
def insertSorted (c : Connection) : List Connection → List Connection
  | [] => [c]
  | d :: rest =>
    if c.key < d.key then c :: d :: rest
    else if c.key = d.key then c :: rest
    else d :: insertSorted c rest

/-- The registry with one more connection. -/
def insert (r : Registry) (c : Connection) : Registry :=
  { r with connections := insertSorted c r.connections }

/-- The current connection. -/
def currentConnection? (r : Registry) : Option Connection :=
  r.current.bind r.find?

/-- The key that a name stands for: itself, or its form in lower case. -/
def keyOf? (r : Registry) (name : String) : Option String :=
  if (r.find? name).isSome then some name
  else
    let lowered := String.ofList (Text.lower name.toList)
    if (r.find? lowered).isSome then some lowered else none

/-- The first connection whose key holds every piece of a text between at signs, case aside. -/
def roughMatch? (r : Registry) (sought : String) : Option Connection :=
  let pieces := (Text.splitAt (· == '@') sought.toList).map Text.lower
  r.connections.find? fun c =>
    let key := Text.lower c.key.toList
    pieces.all fun piece => Text.contains key piece

/-- What is known when a connection is wanting. -/
def advice (r : Registry) (environment : Bool) (sought : Option String) : Fault.Advice where
  keys := r.keys
  close := sought.bind fun s =>
    (Text.closest s.toList (r.keys.map String.toList)).map String.ofList
  environment

/-- The refusal of a command that has no connection to run on. -/
def noConnection (r : Registry) : Fault :=
  .noConnection (r.advice true none)

/-- The current connection, or its absence as a fault. -/
def requireCurrent (r : Registry) : Except Fault Connection :=
  match r.currentConnection? with
  | some c => .ok c
  | none => .error r.noConnection

/-- Opens a client; a connection fault is worded with advice. -/
def openClient (r : Registry) (url : String) (options : OpenOptions) : Except Fault Client :=
  match Connect.openUrl url options.arguments options.engines with
  | .ok c => .ok c
  | .error f =>
    if f.category = .connection then .error (.openingFailed f.message (r.advice false (some url)))
    else .error f

/-- Registers a client and makes its connection current. -/
def register (r : Registry) (clients : Clients) (id : ClientId) (aliasName : Option String) :
    Registry × String :=
  let c := Connection.ofClient clients id aliasName
  ({ r.insert c with current := some c.key }, c.key)

/-- The registered connections and the clients behind them. -/
structure Desk where
  registry : Registry := {}
  clients : Clients := {}

/-- Makes the target current and gives its key. A connection string that roughly matches a key stands
for that connection. -/
def select (target : Target) (options : OpenOptions) (d : Desk) : Except Fault (String × Desk) :=
  let r := d.registry
  match target with
  | .key key =>
    match r.keyOf? key with
    | some key => .ok (key, { d with registry := { r with current := some key } })
    | none => .error (.keyNotOpen key (r.advice false (some key)))
  | .client id =>
    let (r, key) := r.register d.clients id options.aliasName
    .ok (key, { d with registry := r })
  | .connectString url =>
    match r.roughMatch? url with
    | some c => .ok (c.key, { d with registry := { r with current := some c.key } })
    | none =>
      match options.creator with
      | some id =>
        let (r, key) := r.register d.clients id options.aliasName
        .ok (key, { d with registry := r })
      | none =>
        match r.openClient url options with
        | .error f => .error f
        | .ok client =>
          let (id, clients) := d.clients.add client
          let (r, key) := r.register clients id options.aliasName
          .ok (key, ⟨r, clients⟩)

/-- One line for each connection; a star marks the current one. -/
def listing (r : Registry) : String :=
  String.intercalate "\n" (r.connections.map fun c =>
    (if r.current = some c.key then "* " else "  ")
      ++ (match c.aliasName with
        | some a => " (" ++ a ++ ") " ++ c.url
        | none => " " ++ c.url))

/-- Finds the connection of a command that names none. Where connections are open the current one
stays, and their listing is given when asked for; otherwise the default URL is opened. -/
def selectDefault (showListing : Bool) (databaseUrl : Option String) (options : OpenOptions)
    (d : Desk) : Except Fault (Option String × Desk) :=
  if !d.registry.connections.isEmpty then
    .ok (if showListing then some d.registry.listing else none, d)
  else
    match databaseUrl with
    | some url => (select (.connectString url) options d).map fun (_, d) => (none, d)
    | none => .error d.registry.noConnection

/-- Closes the client of a connection; what its driver answers does not matter. -/
def closeClient (clients : Clients) (c : Connection) : Clients :=
  (clients.talk c.client (.ok ()) Talk.close).2

/-- Closes the connection that a name stands for and forgets it. -/
def close (name : String) (d : Desk) : Except Fault Desk :=
  let r := d.registry
  match r.keyOf? name with
  | none => .error (.closeNotFound r.keys)
  | some key =>
    let clients := match r.find? key with
      | some c => closeClient d.clients c
      | none => d.clients
    .ok ⟨{ connections := r.connections.filter fun c => c.key != key
           current := if r.current = some key then none else r.current }, clients⟩

/-- Closes and forgets all connections. -/
def closeAll (d : Desk) : Desk :=
  ⟨{}, d.registry.connections.foldl closeClient d.clients⟩

end Registry
end SqlCells
