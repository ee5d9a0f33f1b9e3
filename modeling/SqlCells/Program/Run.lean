import SqlCells.Program.Arguments
import SqlCells.Program.EnvFile
import SqlCells.Program.Output
import SqlCells.Config.File
import SqlCells.Script

/-!
# The program

What a call of the program prints, as a function of its surroundings: the words of the command line,
the environment, the files and the standard input.  The cells of a call share one session, and the
first cell that fails ends it.
-/

namespace SqlCells
namespace Program

/-- What a call of the program finds. -/
structure Surroundings where
  words : List String
  env : Command.Environment := []
  /-- The directory of the user's own files. -/
  home : String := ""
  input : List UInt8 := []
  files : Files := {}
  engines : Connect.Engines := .absent

/-- What a call of the program leaves behind. -/
structure Result where
  code : Nat
  printed : Printed := {}
  /-- The place of the log file that was created. -/
  logFile : Option (List String) := none

/-- The path of the user's configuration file: in the directory that the environment names, if that
is an absolute path, and otherwise below the home directory. -/
def configPath (env : Command.Environment) (home : String) : String :=
  let directory := match env.lookup "XDG_CONFIG_HOME" with
    | some path => if path.startsWith "/" then path else home ++ "/.config"
    | none => home ++ "/.config"
  directory ++ "/db-cell/config.toml"

/-- The settings of a configuration as the command line changes them. -/
def adjusted (a : Arguments) (c : Config) : Config :=
  { c with settings :=
    { c.settings with
      autolimit := a.autolimit.getD c.settings.autolimit
      displaylimit := a.displaylimit.getD c.settings.displaylimit } }

/-- The one cell of the command line. A body of one hyphen is read from the standard input. -/
def givenCell (a : Arguments) (input : List UInt8) : Except String Script.Cell :=
  let header := (String.intercalate " " a.header).toList
  match a.body with
  | none => .ok ⟨header, [], 1⟩
  | some "-" =>
    match Files.decodeText input with
    | .ok body => .ok ⟨header, body.toList, 1⟩
    | .error f => .error ("Cannot read the cell body: " ++ f.message)
  | some body => .ok ⟨header, body.toList, 1⟩

/-- The cells that a call runs. -/
def cells (a : Arguments) (files : Files) (input : List UInt8) : Except String (List Script.Cell) :=
  match a.script with
  | none => (givenCell a input).map fun cell => [cell]
  | some path =>
    match files.readText path with
    | .ok script => .ok (Script.split script.toList)
    | .error f => .error ("Cannot read script " ++ path ++ ": " ++ f.message)

/-- What is printed when a cell fails. -/
def cellFailure (cell : Script.Cell) (f : Fault) : String :=
  let label := if cell.header.isEmpty then "Cell" else "Cell `" ++ String.ofList cell.header ++ "`"
  label ++ " failed (line " ++ toString cell.line ++ "): " ++ f.display

/-- Runs cells one after another in a session, and gives what they print and why they ended early. -/
def runCells (format : OutputFormat) (limit : Nat) (s : Session) :
    List Script.Cell → Printed × Option String
  | [] => ({}, none)
  | cell :: rest =>
    match (Session.execute (String.ofList cell.header) (String.ofList cell.body)).run s with
    | (.error f, _) => ({}, some (cellFailure cell f))
    | (.ok reply, s) =>
      match reply.print format limit with
      | (printed, some f) => (printed, some f.display)
      | (printed, none) =>
        let (more, failure) := runCells format limit s rest
        (printed ++ more, failure)

/-- Runs what the command line asks for: what is printed, and why the run failed. -/
def runArguments (a : Arguments) (w : Surroundings) : Printed × Option String :=
  let name := a.format.getD "table"
  match OutputFormat.ofName? name with
  | none =>
    ({}, some ("Invalid output format: " ++ name ++ ". Expected: table, csv, or json"))
  | some format =>
    match Config.load w.files (a.config.getD (configPath w.env w.home)) with
    | .error f => ({}, some f.display)
    | .ok config =>
      match cells a w.files w.input with
      | .error message => ({}, some message)
      | .ok cells =>
        let config := adjusted a config
        let session : Session :=
          { env := w.env, files := w.files, config, engines := w.engines
            databaseUrl := a.databaseUrl.or (w.env.lookup "DATABASE_URL") }
        runCells format config.settings.displaylimit session cells

/-- Makes a log file and the directories on the way to it: the files with it, its place, and a warning
when it cannot be made. -/
def openLog (files : Files) : Option String → Files × Option (List String) × Printed
  | none => (files, none, {})
  | some path =>
    match files.makeParents path with
    | .error f =>
      (files, none, .errLine ("Warning: Could not create log directory: " ++ f.message).toList)
    | .ok made =>
      match made.create path with
      | .ok place => (made.write place [], some place, {})
      | .error f =>
        (made, none, .errLine ("Warning: Could not create log file: " ++ f.message).toList)

/-- The surroundings with the environment that the file `.env` adds to. -/
def withEnvFile (w : Surroundings) : Surroundings :=
  match w.files.read ".env" with
  | .ok content => { w with env := EnvFile.load w.env content }
  | .error _ => w

/-- Runs the program. A command line that is refused gives `none`. -/
def run (w : Surroundings) : Option Result :=
  let w := withEnvFile w
  match Arguments.read? w.words with
  | none => none
  | some .help => some { code := 0, printed := { out := Arguments.helpText.toList } }
  | some .version => some { code := 0, printed := { out := Arguments.versionText.toList } }
  | some (.run a) =>
    let (files, logFile, warning) := openLog w.files a.logFile
    let (printed, failure) := runArguments a { w with files }
    match failure with
    | none => some { code := 0, printed := warning ++ printed, logFile }
    | some message =>
      some { code := 1, printed := warning ++ printed ++ .errLine ("Error: " ++ message).toList, logFile }

end Program
end SqlCells
