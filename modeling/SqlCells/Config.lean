import SqlCells.Fault
import SqlCells.Url.Parser

/-!
# Configuration

The settings that every command consults, and named connection sections.  A section gives a URL, or
the parts from which one is put together.
-/

namespace SqlCells

/-- Settings of execution and display. -/
structure Settings where
  /-- The bound on fetched rows; zero and below is no bound. -/
  autolimit : Int64 := 0
  /-- The number of rows shown in a table; zero is no bound. -/
  displaylimit : Nat := 10
  autocommit : Bool := true
  /-- Whether the number of changed rows is reported. -/
  feedback : Bool := true
  /-- Whether results are frames. -/
  autoframe : Bool := false
  /-- Whether each column of a result is bound to a variable of its name. -/
  columnLocalVars : Bool := false
  /-- Whether connections are listed when a command names none. -/
  displaycon : Bool := true
  /-- Whether recognised driver errors are explained. -/
  shortErrors : Bool := true
  deriving DecidableEq, Repr

/-- The bound on fetched rows, if there is one. -/
def Settings.fetchLimit (s : Settings) : Option Nat :=
  if 0 < s.autolimit.toInt then some s.autolimit.toInt.toNat else none

/-- A named connection section. -/
structure Section where
  /-- The whole URL; it goes before the parts. -/
  url : Option String := none
  drivername : Option String := none
  host : Option String := none
  port : Option Nat := none
  database : Option String := none
  username : Option String := none
  password : Option String := none
  deriving DecidableEq, Repr

namespace Section

/-- The parts of a URL as a section. -/
def ofUrl (text : String) : Except Fault Section :=
  match Url.parse text.toList with
  | .error f => .error (.badSectionUrl f.message)
  | .ok u =>
    let nonEmpty (s : List Char) : Option String :=
      if s.isEmpty then none else some (String.ofList s)
    .ok {
      drivername := some (String.ofList u.scheme)
      host := u.host.text?.map String.ofList
      port := u.port
      database := (Text.dropPrefix? ['/'] u.path).bind nonEmpty
      username := nonEmpty u.username
      password := u.password.map String.ofList }

/-- The URL of a section: its own, or its parts one after another as they are. -/
def toUrl (s : Section) : Except Fault String :=
  match s.url, s.drivername with
  | some url, _ => .ok url
  | none, none => .error .driverNameMissing
  | none, some driver =>
    let user := match s.username with
      | some user => user ++ (match s.password with
          | some password => ":" ++ password
          | none => "") ++ "@"
      | none => ""
    let host := match s.host with
      | some host => host ++ (match s.port with
          | some port => ":" ++ toString port
          | none => "")
      | none => ""
    let database := match s.database with
      | some database => "/" ++ database
      | none => ""
    .ok (driver ++ "://" ++ user ++ host ++ database)

end Section

/-- A configuration. -/
structure Config where
  settings : Settings := {}
  /-- Connection sections by name. -/
  connections : List (String × Section) := []
  deriving Repr

namespace Config

/-- The section with a name. -/
def section? (c : Config) (name : String) : Option Section :=
  c.connections.lookup name

/-- Puts a name in its place among sorted names. -/
def insertName (name : String) : List String → List String
  | [] => [name]
  | n :: rest => if name < n then name :: n :: rest else n :: insertName name rest

/-- The URL of the section with a name. -/
def sectionUrl (c : Config) (name : String) : Except Fault String :=
  match c.section? name with
  | some s => s.toUrl
  | none =>
    .error (.sectionNotFound name ((c.connections.map Prod.fst).foldl (fun ns n => insertName n ns) []))

end Config
end SqlCells
