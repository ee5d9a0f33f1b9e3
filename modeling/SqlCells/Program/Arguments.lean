import SqlCells.Number.Integer

/-!
# The command line

The options of the program and the words of a header.  Options come first; from the first word on
that is neither an option nor its value, everything belongs to the header.  An option's value follows
it, after an equals sign or as the next word.
-/

namespace SqlCells

/-- What the command line asks for. -/
structure Arguments where
  /-- The words of the cell's header. -/
  header : List String := []
  body : Option String := none
  /-- The script whose cells are run instead of one cell. -/
  script : Option String := none
  format : Option String := none
  config : Option String := none
  autolimit : Option Int64 := none
  displaylimit : Option Nat := none
  databaseUrl : Option String := none
  logFile : Option String := none
  deriving DecidableEq, Repr

namespace Arguments

/-! ## Options -/

/-- An option that takes a value. -/
inductive Setting where
  | body
  | script
  | format
  | config
  | autolimit
  | displaylimit
  | databaseUrl
  | logFile
  deriving DecidableEq, Repr

/-- An option. -/
inductive Flag where
  | setting (s : Setting)
  | help
  | version
  deriving DecidableEq, Repr

/-- The options by their names. -/
def flags : List (String × Flag) :=
  [("body", .setting .body), ("script", .setting .script), ("format", .setting .format),
    ("config", .setting .config), ("autolimit", .setting .autolimit),
    ("displaylimit", .setting .displaylimit), ("database-url", .setting .databaseUrl),
    ("log-file", .setting .logFile), ("help", .help), ("version", .version)]

/-- The option with a one-letter name. -/
def letter? : Char → Option Flag
  | 'b' => some (.setting .body)
  | 'h' => some .help
  | 'V' => some .version
  | _ => none

/-- A word of the command line. -/
inductive Word where
  /-- An option, with the value written into the same word. -/
  | flag (f : Flag) (value : Option String)
  /-- Two hyphens: what follows is the header. -/
  | separator
  | plain
  deriving DecidableEq, Repr

/-- Reads what follows two hyphens. An unknown name makes the word a plain one. -/
def Word.long (text : List Char) : Word :=
  let (name, value) := match Text.splitOnce ['='] text with
    | some (name, value) => (name, some (String.ofList value))
    | none => (text, none)
  match flags.lookup (String.ofList name) with
  | some f => .flag f value
  | none => .plain

/-- Reads what follows one hyphen: letters, all of which have to name options. What follows a letter
whose option takes a value is its value. -/
def Word.short (text : List Char) : Word :=
  if text.all fun c => (letter? c).isSome then
    match text.head?.bind letter? with
    | some (.setting s) =>
      .flag (.setting s) (if text.tail.isEmpty then none else some (String.ofList text.tail))
    | some f => .flag f none
    | none => .plain
  else .plain

/-- Reads a word. -/
def Word.of (word : String) : Word :=
  match word.toList with
  | ['-', '-'] => .separator
  | '-' :: '-' :: rest => .long rest
  | '-' :: rest => .short rest
  | _ => .plain

/-! ## Values -/

/-- Fills a field that is empty. -/
def fill {α : Type} (old : Option α) (value : Option α) : Option (Option α) :=
  match old with
  | some _ => none
  | none => value.map some

/-- A path: any text that is not empty. -/
def path? (value : String) : Option String :=
  if value.isEmpty then none else some value

/-- Gives an option its value; each option has at most one. -/
def set? (a : Arguments) (s : Setting) (value : String) : Option Arguments :=
  match s with
  | .body => (fill a.body (some value)).map fun v => { a with body := v }
  | .script => (fill a.script (path? value)).map fun v => { a with script := v }
  | .format => (fill a.format (some value)).map fun v => { a with format := v }
  | .config => (fill a.config (path? value)).map fun v => { a with config := v }
  | .autolimit =>
    (fill a.autolimit (Number.readInt64? value.toList)).map fun v => { a with autolimit := v }
  | .displaylimit =>
    (fill a.displaylimit (Number.readBelow? UInt64.size value.toList)).map fun v =>
      { a with displaylimit := v }
  | .databaseUrl => (fill a.databaseUrl (some value)).map fun v => { a with databaseUrl := v }
  | .logFile => (fill a.logFile (path? value)).map fun v => { a with logFile := v }

/-! ## Reading -/

/-- What the command line asks for. -/
inductive Request where
  | run (a : Arguments)
  | help
  | version
  deriving DecidableEq, Repr

/-- The request to run with the words of a header. A script leaves no room for a header or a body. -/
def finish (a : Arguments) (header : List String) : Option Request :=
  if a.script.isSome && (a.body.isSome || !header.isEmpty) then none
  else some (.run { a with header })

/-- Reads the words from a place on; `pending` is the option whose value is to come. -/
def readFrom (a : Arguments) (pending : Option Setting) : List String → Option Request
  | [] => if pending.isSome then none else a.finish []
  | word :: rest =>
    match Word.of word, pending with
    | .plain, none => a.finish (word :: rest)
    | .plain, some s => (a.set? s word).bind fun a => readFrom a none rest
    | _, some _ => none
    | .separator, none => a.finish rest
    | .flag (.setting s) none, none => readFrom a (some s) rest
    | .flag (.setting s) (some value), none => (a.set? s value).bind fun a => readFrom a none rest
    | .flag .help none, none => some .help
    | .flag .version none, none => some .version
    | .flag _ (some _), none => none

/-- Reads a command line; `none` when it is refused. -/
def read? (words : List String) : Option Request :=
  readFrom {} none words

/-! ## Texts -/

/-- The name and the version of the program. -/
def versionText : String :=
  "dbcell 0.1.0\n"

/-- The lines that explain the command line. -/
def helpLines : List String :=
  ["Run SQL cells against live database connections",
    "",
    "Usage: dbcell [OPTIONS] [HEADER]...",
    "",
    "Arguments:",
    "  [HEADER]...  Cell header: connection, flags, and optionally the SQL itself",
    "",
    "Options:",
    "  -b, --body <TEXT>         Cell body (use \"-\" to read it from stdin)",
    "      --script <PATH>       Run every cell of a script file in one session",
    "      --format <FORMAT>     Output format: table, csv or json [default: table]",
    "      --config <PATH>       Config file path",
    "      --autolimit <N>       Fetch at most N rows (overrides the config file)",
    "      --displaylimit <N>    Show at most N rows in tables (overrides the config file)",
    "      --database-url <URL>  Connection opened when a cell names none [env: DATABASE_URL]",
    "      --log-file <PATH>     Write logs to this file instead of stderr",
    "  -h, --help                Print help",
    "  -V, --version             Print version"]

/-- The text that explains the command line. -/
def helpText : String :=
  String.join (helpLines.map (· ++ "\n"))

end Arguments
end SqlCells
