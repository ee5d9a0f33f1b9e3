import SqlCells.Command.Args
import SqlCells.Command.CellText
import SqlCells.Variables
import SqlCells.Snippets
import SqlCells.Files
import SqlCells.Database.Connect

/-!
# Commands

A header line and a body put together into a command: which connection it names, the SQL to run, the
variable that takes the result.  The contents of a file come before the header's own words;
placeholders are replaced before the chain of snippets is put in front.
-/

namespace SqlCells
namespace Command

/-- How a command names its connection. -/
inductive ConnectionRef where
  /-- By a connection string. -/
  | connectString (url : String)
  /-- By a variable bound to an open connection. -/
  | handle (name : String)
  /-- By the key of a registered connection. -/
  | key (key : String)
  deriving DecidableEq, Repr

/-- What commands are read in the light of. -/
structure Context where
  env : Environment := []
  files : Files := {}
  config : Config := {}
  clients : Clients := {}
  scope : Variables := {}
  snippets : Snippets := {}
  /-- The keys of registered connections. -/
  knownKeys : List String := []
  /-- How snippets are quoted on the current connection. -/
  quoting : NameQuoting := .bare

/-- A command ready to run. -/
structure Parsed where
  connection : Option ConnectionRef
  /-- The SQL behind the chain of snippets it reads from. -/
  sql : String
  /-- The SQL with its placeholders replaced. -/
  sqlOriginal : String
  resultVar : Option String
  returnsResult : Bool
  arguments : Connect.Arguments
  args : Args
  deriving Repr

/-- Reads connection arguments: a JSON object. -/
def readArguments (text : String) : Except Fault Connect.Arguments :=
  match Json.parse text.toList with
  | .error f => .error (.argumentsNotJson (f.message text.toList))
  | .ok json =>
    match json.normalize with
    | .object fields => .ok fields
    | _ => .error .argumentsNotObject

/-- The open connection that a header of one word names: a variable bound to one, or a key. -/
def namedConnection? (ctx : Context) (args : Args) : Option ConnectionRef :=
  match args.line with
  | [word] =>
    if (ctx.scope.connection? word).isSome then some (.handle word)
    else if ctx.knownKeys.contains word then some (.key word)
    else none
  | _ => none

/-- The text of a command: a file's contents if it asks for one, its words, and its body. -/
def commandText (ctx : Context) (args : Args) (words : List String) (body : String) :
    Except Fault String :=
  let own := String.intercalate " " words ++ "\n" ++ body
  match args.file with
  | none => .ok own
  | some path =>
    match ctx.files.readText path with
    | .ok contents => .ok (contents ++ "\n" ++ own)
    | .error f => .error (.cannotRead path f.message)

/-- The connection of a command: the open one it names, else the one its text starts with, else the
section it asks for. -/
def chooseConnection (ctx : Context) (args : Args) (named : Option ConnectionRef)
    (parts : CellParts) : Except Fault (Option ConnectionRef) :=
  match named with
  | some ref => .ok (some ref)
  | none =>
    if !parts.connection.isEmpty then
      .ok (some (.connectString (String.ofList parts.connection)))
    else
      match args.sectionName with
      | some name => (ctx.config.sectionUrl name).map fun url => some (.connectString url)
      | none => .ok none

/-- The SQL of a command, behind the chain of the snippets it names. -/
def compose (ctx : Context) (args : Args) (sql : String) : Except Fault String :=
  if args.withSnippets.isEmpty then .ok sql
  else ctx.snippets.render sql args.withSnippets ctx.quoting

/-- The connection arguments of a command; none unless it gives some. -/
def connectArguments (args : Args) : Except Fault Connect.Arguments :=
  match args.arguments with
  | some text => readArguments text
  | none => .ok []

/-- Reads a command. -/
def parse (ctx : Context) (header body : String) : Except Fault Parsed := do
  let args ← Args.parse header
  let named := namedConnection? ctx args
  let text ← commandText ctx args (if named.isSome then [] else args.line) body
  let parts ← parseCell ctx.env ctx.config text.toList
  let sqlOriginal := String.ofList (expandTemplate
    (fun name => ctx.scope.text? ctx.clients (String.ofList name)) parts.sql)
  let connection ← chooseConnection ctx args named parts
  let sql ← compose ctx args sqlOriginal
  let arguments ← connectArguments args
  return { connection, sql, sqlOriginal, resultVar := parts.resultVar.map String.ofList,
           returnsResult := parts.returnsResult, arguments, args }

end Command
end SqlCells
