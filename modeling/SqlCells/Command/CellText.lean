import SqlCells.Config
import SqlCells.Text.Cut

/-!
# The text of a cell

A cell's text is an optional connection, an optional variable with the shovel `<<` that binds the
result to it, and SQL.  The first word is a connection when, environment references replaced, it
looks like a URL or names a configured section in brackets.
-/

namespace SqlCells
namespace Command

/-- Values of environment variables. -/
abbrev Environment := List (String × String)

/-- A reference `$NAME` or `${NAME}` at the character `c`: the name, and how many characters of
`rest` belong to it. -/
def environmentMention (c : Char) (rest : List Char) : Text.Mention × Nat :=
  if c ≠ '$' then (.plain, 0)
  else match rest with
    | '\x7b' :: inside =>
      let name := Text.takeName inside
      if !name.isEmpty && (inside.drop name.length).head? == some '\x7d' then
        (.named name, name.length + 2)
      else (.plain, 0)
    | _ =>
      let name := Text.takeName rest
      if name.isEmpty then (.plain, 0) else (.named name, name.length)

/-- Replaces references to environment variables by their values. A reference to a variable that is
not set stays as it is written. -/
def expandEnvironment (env : Environment) (text : List Char) : List Char :=
  Text.replaceMentions environmentMention
    (fun name spelling =>
      match env.lookup (String.ofList name) with
      | some value => value.toList
      | none => spelling)
    text

/-- The first word of a text and what follows the blanks after it; `none` for a text of blanks. -/
def firstWord? (text : List Char) : Option (List Char × List Char) :=
  let text := Text.trimStart text
  if text.isEmpty then none
  else
    let word := text.takeWhile fun c => !Text.isBlank c
    some (word, Text.trimStart (text.drop word.length))

/-- The parts of a cell's text. -/
structure CellParts where
  /-- The connection that the first word names; empty when it names none. -/
  connection : List Char := []
  sql : List Char := []
  /-- The variable that the result is bound to. -/
  resultVar : Option (List Char) := none
  /-- Whether the result is shown all the same. -/
  returnsResult : Bool := false
  deriving DecidableEq, Repr

/-- The connection string that a word stands for; empty when it stands for none. -/
def connectionOf (env : Environment) (config : Config) (word : List Char) :
    Except Fault (List Char) :=
  let expanded := expandEnvironment env word
  if expanded.contains '@' || Text.contains expanded [':', '/', '/'] then .ok expanded
  else
    match (Text.dropPrefix? ['['] expanded).bind (Text.dropSuffix? [']']) with
    | some name => (config.sectionUrl (String.ofList name)).map String.toList
    | none => .ok []

/-- Reads what follows the connection: a shovel and SQL, or SQL alone. -/
def readShovel (parts : CellParts) (text : List Char) : CellParts :=
  match firstWord? text with
  | none => parts
  | some (target, rest) =>
    match firstWord? rest with
    | some (['<', '<'], after) =>
      let bound := match Text.dropSuffix? ['='] target with
        | some name => { parts with resultVar := some name, returnsResult := true }
        | none => { parts with resultVar := some target }
      { bound with sql := Text.trim after }
    | _ => { parts with sql := Text.trim text }

/-- Reads the text of a cell. -/
def parseCell (env : Environment) (config : Config) (text : List Char) : Except Fault CellParts :=
  match firstWord? text with
  | none => .ok {}
  | some (first, rest) =>
    match connectionOf env config first with
    | .error f => .error f
    | .ok connection =>
      .ok (readShovel { connection } (if connection.isEmpty then text else rest))

end Command
end SqlCells
