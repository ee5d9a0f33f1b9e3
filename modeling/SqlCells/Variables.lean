import SqlCells.Database.Client
import SqlCells.Data.Table
import SqlCells.Text.Cut

/-!
# Variables

The named values that commands see: they stand in for placeholders, name connections, and take
results.  Names keep the order in which they were first set.
-/

namespace SqlCells

/-- A value that a name is bound to. -/
inductive Binding where
  | value (v : Value)
  /-- A connection, by the number of its client. -/
  | connection (id : ClientId)
  | rows (rs : ResultSet)
  | frame (f : Frame)
  /-- The values of one column. -/
  | column (values : List Value)
  deriving DecidableEq, Repr

namespace Binding

/-- The text that stands in for a placeholder. -/
def text (clients : Clients) : Binding → List Char
  | .value v => v.display
  | .connection id => (clients.url id).toList
  | .rows rs => rs.table 0
  | .frame f => (ResultSet.ofFrame f).table 0
  | .column values => '(' :: Text.joinWith [',', ' '] (values.map Value.sqlLiteral) ++ [')']

/-- The diagnostic text of a binding. -/
def debugText (clients : Clients) : Binding → List Char
  | .value v => "Value(".toList ++ v.debugText ++ [')']
  | .connection id => "Connection(".toList ++ Text.quoted (clients.url id).toList ++ [')']
  | .rows rs => "Rows(".toList ++ rs.debugText ++ [')']
  | .frame f => "Frame(".toList ++ f.debugText ++ [')']
  | .column values => "Column(".toList ++ ResultSet.debugList Value.debugText values ++ [')']

end Binding

/-- Bindings by name. -/
structure Variables where
  bindings : List (String × Binding) := []
  deriving DecidableEq, Repr

namespace Variables

/-- What a name is bound to. -/
def get? (vs : Variables) (name : String) : Option Binding :=
  vs.bindings.lookup name

/-- Whether a name is bound. -/
def contains (vs : Variables) (name : String) : Bool :=
  (vs.get? name).isSome

/-- Binds a name, in the place it had or at the end. -/
def set (vs : Variables) (name : String) (b : Binding) : Variables :=
  if vs.contains name then
    ⟨vs.bindings.map fun (n, old) => if n = name then (n, b) else (n, old)⟩
  else ⟨vs.bindings ++ [(name, b)]⟩

/-- Binds no longer a name. -/
def remove (vs : Variables) (name : String) : Variables :=
  ⟨vs.bindings.filter fun (n, _) => n != name⟩

/-- The bound names. -/
def names (vs : Variables) : List String :=
  vs.bindings.map Prod.fst

/-- The connection that a name is bound to. -/
def connection? (vs : Variables) (name : String) : Option ClientId :=
  match vs.get? name with
  | some (.connection id) => some id
  | _ => none

/-- The text that stands in for a name. -/
def text? (vs : Variables) (clients : Clients) (name : String) : Option (List Char) :=
  (vs.get? name).map (Binding.text clients)

end Variables

namespace Command

/-- A placeholder at the character `c`: a name between two pairs of braces, blanks around it, and how
many characters of `rest` belong to it. -/
def placeholder (c : Char) (rest : List Char) : Text.Mention × Nat :=
  match c, rest with
  | '\x7b', '\x7b' :: inside =>
    let name := Text.takeName (Text.trimStart inside)
    let after := Text.trimStart ((Text.trimStart inside).drop name.length)
    match after with
    | '\x7d' :: '\x7d' :: tail =>
      if name.isEmpty then (.plain, 0) else (.named name, rest.length - tail.length)
    | _ => (.plain, 0)
  | _, _ => (.plain, 0)

/-- Replaces placeholders by the texts of the names in them, once and from the left; a name that has
no text is replaced by nothing. -/
def expandTemplate (text : List Char → Option (List Char)) (template : List Char) : List Char :=
  Text.replaceMentions placeholder (fun name _ => (text name).getD []) template

end Command
end SqlCells
