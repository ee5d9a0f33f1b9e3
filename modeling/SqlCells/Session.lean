import SqlCells.Command.Parse
import SqlCells.Registry
import SqlCells.Run.Persist
import SqlCells.Run.Explain

/-!
# Sessions

What consecutive commands share: connections, snippets, variables and settings.  Running a command
parses it, selects its connection, and then lists, closes, persists, saves or executes as its flags
say.
-/

namespace SqlCells

/-- What a command produced. -/
inductive Outcome where
  | nothing
  | status (text : String)
  | rows (rs : ResultSet)
  | frame (f : Frame)
  deriving DecidableEq, Repr

/-- A command's product and the messages to print. -/
structure Reply where
  outcome : Outcome
  notices : List String
  deriving DecidableEq, Repr

/-- The state that commands share. -/
structure Session where
  env : Command.Environment := []
  files : Files := {}
  config : Config := {}
  registry : Registry := {}
  clients : Clients := {}
  snippets : Snippets := {}
  scope : Variables := {}
  /-- The connection opened when a command names none and none is open. -/
  databaseUrl : Option String := none
  engines : Connect.Engines := .absent

/-- A step of a command: it ends in a value or a fault, and what it changed before stays changed. -/
abbrev Step := ExceptT Fault (StateM Session)

namespace Session

/-- How snippets are quoted on the current connection. -/
def quoting (s : Session) : NameQuoting :=
  match s.registry.currentConnection? with
  | some c => (s.clients.dialect c.client).nameQuoting
  | none => .bare

/-- Reads a command without running it. -/
def parse (s : Session) (header body : String) : Except Fault Command.Parsed :=
  Command.parse
    { env := s.env, files := s.files, config := s.config, clients := s.clients
      scope := s.scope, snippets := s.snippets, knownKeys := s.registry.keys
      quoting := s.quoting }
    header body

/-- A saved snippet behind the chain of what it reads from. -/
def render (s : Session) (name : String) : Except Fault String :=
  s.snippets.renderSnippet name s.quoting

/-- The connections of a session. -/
def desk (s : Session) : Registry.Desk :=
  ⟨s.registry, s.clients⟩

/-- The session with other connections. -/
def withDesk (s : Session) (d : Registry.Desk) : Session :=
  { s with registry := d.registry, clients := d.clients }

/-- The client that a variable is bound to. -/
def handle (s : Session) (name : String) : Except Fault ClientId :=
  match s.scope.connection? name with
  | some id => .ok id
  | none => .error (.notAConnection name)

/-- Changes the connections; a fault leaves them as they were. -/
def onDesk {α : Type} (change : Registry.Desk → Except Fault (α × Registry.Desk)) : Step α :=
  fun s =>
    match change s.desk with
    | .ok (a, d) => (.ok a, s.withDesk d)
    | .error f => (.error f, s)

/-- Talks to a client. -/
def talk {α : Type} (id : ClientId) (t : Talk α) : Step α :=
  fun s =>
    let (result, clients) := s.clients.talk id (.error s.registry.noConnection) t
    (result, { s with clients })

/-- The client to register in place of a new one, if the command names one. -/
def creator (s : Session) (args : Command.Args) : Except Fault (Option ClientId) :=
  match args.creator with
  | some name => (s.handle name).map some
  | none => .ok none

/-- What a reference to a connection asks to connect to. -/
def target (s : Session) : Command.ConnectionRef → Except Fault Target
  | .connectString url => .ok (.connectString url)
  | .handle name => (s.handle name).map Target.client
  | .key key => .ok (.key key)

/-- Makes the connection of a command current among open connections, and gives the messages to
print. -/
def changeConnection (s : Session) (p : Command.Parsed) (options : OpenOptions)
    (d : Registry.Desk) : Except Fault (List String × Registry.Desk) :=
  match p.connection with
  | some ref => do
    let target ← s.target ref
    let (_, d) ← Registry.select target options d
    return ([], d)
  | none => do
    let (listing, d) ←
      Registry.selectDefault s.config.settings.displaycon s.databaseUrl options d
    return (listing.toList, d)

/-- Selects the connection of a command, and gives the messages to print. -/
def selectConnection (p : Command.Parsed) : Step (List String) := do
  let s ← get
  let creator ← s.creator p.args
  onDesk (s.changeConnection p
    { arguments := p.arguments, aliasName := p.args.aliasName, creator, engines := s.engines })

/-- What a persisting command does when the table exists, and the messages to print. -/
def persistMode (args : Command.Args) : Persist.IfExists × List String :=
  if args.persist && args.persistReplace then
    (.replace, ["Please use either --persist or --persist-replace"])
  else if args.persistReplace then (.replace, [])
  else if args.append then (.append, [])
  else (.fail, [])

/-- Whether a text is an identifier: a letter or underscore, then letters, numbers and underscores. -/
def isIdentifier (name : List Char) : Bool :=
  match name with
  | [] => false
  | c :: rest =>
    (Text.isLetter c || c == '_') && rest.all fun c => Text.isLetterOrNumber c || c == '_'

/-- The variable that a persisting command names. -/
def persistVariable (sql : String) : Except Fault String :=
  let semicolon (c : Char) : Bool := c == ';'
  let inner := Text.dropTailWhile semicolon ((Text.trim sql.toList).dropWhile semicolon)
  let name := Text.trim inner
  if name.isEmpty then .error .persistNothing
  else if isIdentifier name then .ok (String.ofList name)
  else .error (.persistNotIdentifier (String.ofList name))

/-- The frame that a variable holds. -/
def frameOf (scope : Variables) (name : String) : Except Fault Frame :=
  match scope.get? name with
  | none => .error (.persistUndefined name)
  | some (.rows rs) => .ok rs.toFrame
  | some (.frame f) => .ok f
  | some (.column values) => .ok ⟨[name], [values]⟩
  | some _ => .error (.persistNotResult name)

/-- Writes the result that a command names to a table. -/
def persist (p : Command.Parsed) (notices : List String) : Step Reply := do
  let s ← get
  let (mode, warnings) := persistMode p.args
  let name ← persistVariable p.sql
  let frame ← frameOf s.scope name
  let table ← Persist.tableName name
  let connection ← s.registry.requireCurrent
  let printed ← talk connection.client (Persist.writeFrame table frame mode (!p.args.noIndex))
  return ⟨.status ("Persisted " ++ table), notices ++ warnings ++ printed⟩

/-- A fault of an execution as it is shown: a driver's message that can be explained is, if the
settings ask for it. -/
def explain (settings : Settings) (sql : String) (f : Fault) : Fault :=
  match f with
  | .driver message =>
    match Explain.detail? message sql with
    | some text => if settings.shortErrors then .explained text else f
    | none => f
  | _ => f

/-- Binds the columns of a frame to variables of their names. -/
def bindColumns (scope : Variables) (f : Frame) : Variables :=
  (f.names.zip f.columns).foldl (fun vs (name, values) => vs.set name (.column values)) scope

/-- Binds a result as the settings and the command ask, and gives what is left to show. -/
def route (settings : Settings) (p : Command.Parsed) (scope : Variables) (output : Output) :
    Reply × Variables :=
  let bind (b : Binding) (shown : Outcome) (f : Frame) : Reply × Variables :=
    if settings.columnLocalVars then
      let notices :=
        if settings.feedback then
          ["Returning data to local variables [" ++ Fault.commaList f.names ++ "]"]
        else []
      (⟨.nothing, notices⟩, bindColumns scope f)
    else
      match p.resultVar with
      | some name =>
        (⟨if p.returnsResult then shown else .nothing, []⟩, scope.set name b)
      | none => (⟨shown, []⟩, scope)
  match output with
  | .status text => (⟨.status text, []⟩, scope)
  | .rows rs => bind (.rows rs) (.rows rs) rs.toFrame
  | .frame f => bind (.frame f) (.frame f) f

/-- Executes the SQL of a command on the current connection. -/
def runSql (p : Command.Parsed) (notices : List String) : Step Reply := do
  let s ← get
  let settings := s.config.settings
  let connection ← s.registry.requireCurrent
  let hasMeta := (s.clients.dialect connection.client).caps.metaCommands
  let ctx : Execution.Context := { settings, name := connection.name, hasMeta }
  let execution ←
    tryCatch (talk connection.client (Execution.run ctx p.sql.toList)) fun f =>
      throw (explain settings p.sql f)
  let (reply, scope) := route settings p s.scope execution.output
  modify fun s => { s with scope }
  return ⟨reply.outcome, notices ++ execution.notices ++ reply.notices⟩

/-- Saves the SQL of a command if it asks for that. -/
def saveSnippet (p : Command.Parsed) : Step Unit := do
  match p.args.saveAs with
  | none => return ()
  | some name =>
    let s ← get
    let snippets ← s.snippets.store name p.sqlOriginal p.args.withSnippets
    set { s with snippets }

/-- How a command stands before its SQL is run: it is answered, or its SQL is next, after the messages
to print. -/
inductive Prepared where
  | done (reply : Reply)
  | ready (notices : List String)

/-- What a parsed command does before its SQL is run: it selects its connection, and then lists,
closes, persists or saves as its flags say. -/
def prepare (p : Command.Parsed) : Step Prepared := do
  let s ← get
  if !p.args.interact.isEmpty then throw .interactUnavailable
  if p.args.connections then return .done ⟨.status s.registry.listing, []⟩
  match p.args.closeKey with
  | some name =>
    onDesk fun d => (Registry.close name d).map fun d => ((), d)
    return .done ⟨.nothing, []⟩
  | none =>
    let notices ← selectConnection p
    if p.args.wantsPersist then return .done (← persist p notices)
    else if Text.isAllBlank p.sql.toList then
      if (← get).registry.currentConnection?.isNone then return .done ⟨.nothing, notices⟩
      return .ready notices
    else
      saveSnippet p
      if p.args.noExecute then return .done ⟨.status "Skipping execution...", notices⟩
      return .ready notices

/-- Runs a parsed command. -/
def runParsed (p : Command.Parsed) : Step Reply := do
  match ← prepare p with
  | .done reply => return reply
  | .ready notices => runSql p notices

/-- Runs one command: a header line and a body. -/
def execute (header body : String) : Step Reply := do
  let p ← (← get).parse header body
  runParsed p

/-- Closes all connections. -/
def shutdown (s : Session) : Session :=
  s.withDesk (Registry.closeAll s.desk)

end Session
end SqlCells
