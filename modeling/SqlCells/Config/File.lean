import SqlCells.Config
import SqlCells.Files
import SqlCells.Toml.Parser

/-!
# Configuration files

Reading a configuration from a TOML file.  Every setting has a default, unknown keys are passed over,
and a value of the wrong type refuses the whole file.
-/

namespace SqlCells
namespace Config

/-- The value of a key, read by `p`: nothing when the key is missing, a failure when its value has
the wrong type. -/
def optional? {α : Type} (p : Toml → Option α) (fields : List (String × Toml)) (key : String) :
    Option (Option α) :=
  match fields.lookup key with
  | none => some none
  | some v => (p v).map some

/-- The value of a key, or its default. -/
def withDefault? {α : Type} (p : Toml → Option α) (fields : List (String × Toml)) (key : String)
    (default : α) : Option α :=
  (optional? p fields key).map fun v => v.getD default

/-- A text. -/
def text? : Toml → Option String
  | .text s => some s
  | _ => none

/-- A truth value. -/
def truth? : Toml → Option Bool
  | .bool b => some b
  | _ => none

/-- A signed integer. -/
def signed? : Toml → Option Int64
  | .int i => some i
  | _ => none

/-- An integer that is not negative and below a bound. -/
def below? (bound : Nat) : Toml → Option Nat
  | .int i => if 0 ≤ i.toInt ∧ i.toInt.toNat < bound then some i.toInt.toNat else none
  | _ => none

/-- The fields of a record whose fields have the given names: a table, or an array of their values in
order. A moment is a record of which no field is given. -/
def fields? (names : List String) : Toml → Option (List (String × Toml))
  | .table entries => some entries
  | .array items => some (names.zip items)
  | .moment => some []
  | _ => none

/-- The names of the settings, in order. -/
def settingNames : List String :=
  ["autolimit", "displaylimit", "autocommit", "feedback", "autoframe", "column_local_vars",
    "displaycon", "short_errors"]

/-- The settings that a value gives. -/
def settingsOf? (v : Toml) : Option Settings := do
  let fields ← fields? settingNames v
  let base : Settings := {}
  return {
    autolimit := ← withDefault? signed? fields "autolimit" base.autolimit
    displaylimit := ← withDefault? (below? UInt64.size) fields "displaylimit" base.displaylimit
    autocommit := ← withDefault? truth? fields "autocommit" base.autocommit
    feedback := ← withDefault? truth? fields "feedback" base.feedback
    autoframe := ← withDefault? truth? fields "autoframe" base.autoframe
    columnLocalVars := ← withDefault? truth? fields "column_local_vars" base.columnLocalVars
    displaycon := ← withDefault? truth? fields "displaycon" base.displaycon
    shortErrors := ← withDefault? truth? fields "short_errors" base.shortErrors }

/-- The names of a section's fields, in order. -/
def sectionNames : List String :=
  ["url", "drivername", "host", "port", "database", "username", "password"]

/-- The connection section that a value gives. The user has two names, of which one may be used; an
array has to hold every field. -/
def sectionOf? (v : Toml) : Option Section := do
  let fields ← fields? sectionNames v
  match v with
  | .array items => if items.length < sectionNames.length then failure
  | _ => pure ()
  let username ← optional? text? fields "username"
  let user ← optional? text? fields "user"
  if username.isSome && user.isSome then failure
  return {
    url := ← optional? text? fields "url"
    drivername := ← optional? text? fields "drivername"
    host := ← optional? text? fields "host"
    port := ← optional? (below? UInt16.size) fields "port"
    database := ← optional? text? fields "database"
    username := username.or user
    password := ← optional? text? fields "password" }

/-- The connection sections that a value gives. -/
def sectionsOf? : Toml → Option (List (String × Section))
  | .table entries => entries.mapM fun (name, v) => (sectionOf? v).map fun s => (name, s)
  | _ => none

/-- The configuration that a TOML document gives. -/
def ofToml? : Toml → Option Config
  | .table entries => do
    return {
      settings := ← withDefault? settingsOf? entries "settings" {}
      connections := ← withDefault? sectionsOf? entries "connections" [] }
  | _ => none

/-- The configuration in the file at a path; the defaults when there is no file. -/
def load (files : Files) (path : String) : Except Fault Config :=
  if !files.exists? path then .ok {}
  else
    match files.readText path with
    | .error f => .error (.configUnreadable f.message)
    | .ok text =>
      match (Toml.parse? text.toList).bind ofToml? with
      | some c => .ok c
      | none => .error (.configMalformed path)

end Config
end SqlCells
