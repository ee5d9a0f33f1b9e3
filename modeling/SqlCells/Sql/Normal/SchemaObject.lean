import SqlCells.Sql.Normal.Query

/-!
# Further objects of a schema

The parts of statements that create and drop sequences, types, extensions, virtual tables, triggers
and routines.
-/

namespace SqlCells
namespace Sql
namespace Reader

/-- `IF NOT EXISTS`, if it comes next. -/
def ifNotExists : Reader String := do
  return if ← words ["IF", "NOT", "EXISTS"] then "IF NOT EXISTS " else ""

/-- `IF EXISTS`, if it comes next. -/
def ifExists : Reader String := do
  return if ← words ["IF", "EXISTS"] then "IF EXISTS " else ""

/-- What becomes of objects that depend on one that is dropped, if it is said. -/
def dependents : Reader String := do
  return clause (← oneOf ["CASCADE", "RESTRICT"])

/-- When and whether a constraint is checked. -/
def constraintTiming : Reader String := do
  let deferrable ←
    if ← words ["NOT", "DEFERRABLE"] then pure " NOT DEFERRABLE"
    else if ← word "DEFERRABLE" then pure " DEFERRABLE"
    else pure ""
  let initially ←
    if ← words ["INITIALLY", "DEFERRED"] then pure " INITIALLY DEFERRED"
    else if ← words ["INITIALLY", "IMMEDIATE"] then pure " INITIALLY IMMEDIATE"
    else pure ""
  let enforced ←
    if ← words ["NOT", "ENFORCED"] then pure " NOT ENFORCED"
    else if ← word "ENFORCED" then pure " ENFORCED"
    else pure ""
  return deferrable ++ initially ++ enforced

/-- A number with its sign, or a parameter. -/
def signedNumber : Reader String := do
  let start ← if ← sign "-" then pure "-" else if ← sign "+" then pure "+" else pure ""
  let l ← peek
  match l.map Lexeme.token with
  | some (.number _ _) | some (.placeholder _) => return start ++ (← concreteValue)
  | _ => expected "literal number"

/-- A bound of a sequence that may be absent, if it comes next. -/
def sequenceBound (keyword : String) : Reader String := do
  if ← word keyword then return " " ++ keyword ++ " " ++ (← signedNumber)
  else if ← words ["NO", keyword] then return " NO " ++ keyword
  else return ""

/-- A number of a sequence behind a keyword and a word that may be left out, if it comes next. -/
def sequenceNumber (keyword link : String) : Reader String := do
  if ← word keyword then
    let link ← if ← word link then pure (" " ++ link) else pure ""
    return " " ++ keyword ++ link ++ " " ++ (← signedNumber)
  else return ""

/-- How the numbers of a sequence follow one another. -/
def sequenceOptions : Reader String := do
  let increment ← sequenceNumber "INCREMENT" "BY"
  let low ← sequenceBound "MINVALUE"
  let high ← sequenceBound "MAXVALUE"
  let start ← sequenceNumber "START" "WITH"
  let cache ← if ← word "CACHE" then (do return " CACHE " ++ (← signedNumber)) else pure ""
  let cycle ←
    if ← words ["NO", "CYCLE"] then pure " NO CYCLE"
    else if ← word "CYCLE" then pure " CYCLE"
    else pure ""
  return increment ++ low ++ high ++ start ++ cache ++ cycle

/-- A new sequence behind its keyword; `start` is what stands before the keyword. -/
def createSequence (start : String) : Reader String := do
  let unless_ ← ifNotExists
  let name ← objectName
  let kind ← after "AS" dataType
  let options ← sequenceOptions
  let owner ← if ← words ["OWNED", "BY"] then (do return " OWNED BY " ++ (← objectName)) else pure ""
  return "CREATE " ++ start ++ "SEQUENCE " ++ unless_ ++ name
    ++ clause (kind.map fun t => "AS " ++ t.text) ++ options ++ owner

/-- The attributes of a record type behind the opening parenthesis, at most `n` of them. -/
def attributesUpTo : Nat → Reader (List String)
  | 0 => return []
  | n + 1 => do
    let name ← identifier
    let t ← dataType
    let collation ← after "COLLATE" objectName
    let part := name ++ " " ++ t.text ++ clause (collation.map ("COLLATE " ++ ·))
    let comma ← sign ","
    if ← sign ")" then return [part]
    else if comma then return part :: (← attributesUpTo n)
    else expected "',' or ')' after attribute definition"

/-- A new record type behind its keyword. -/
def createType : Reader String := do
  let name ← objectName
  need "AS"
  let empty ← if ← sign "(" then sign ")" else pure true
  let attributes ← if empty then pure [] else attributesUpTo ((← get).length + 1)
  return "CREATE TYPE " ++ name ++ " AS (" ++ joined attributes ++ ")"

/-- A new extension behind its keyword. -/
def createExtension : Reader String := do
  let unless_ ← ifNotExists
  let name ← identifier
  let details ←
    if ← word "WITH" then do
      let schema ← after "SCHEMA" identifier
      let version ← after "VERSION" identifier
      let cascade ← word "CASCADE"
      pure (clause (schema.map ("SCHEMA " ++ ·)) ++ clause (version.map ("VERSION " ++ ·))
        ++ (if cascade then " CASCADE" else ""))
    else pure ""
  return "CREATE EXTENSION " ++ unless_ ++ name ++ (if details.isEmpty then "" else " WITH" ++ details)

/-- A new virtual table behind the first of its keywords. -/
def createVirtualTable : Reader String := do
  need "TABLE"
  let unless_ ← ifNotExists
  let name ← objectName
  need "USING"
  let module_ ← identifier
  let args ← columns?
  return "CREATE VIRTUAL TABLE " ++ unless_ ++ name ++ " USING " ++ module_
    ++ (if args.isEmpty then "" else " " ++ args)

/-- A parameter of a routine: its direction, name, type and default. -/
def routineParameter (g : Grammar) : Reader String := do
  let mode ← oneOf ["IN", "OUT", "INOUT"]
  let first ← dataType
  let named ← if first.custom then (do return first.text ++ " " ++ (← dataType).text)
    else pure first.text
  let hasDefault ← if ← word "DEFAULT" then pure true else sign "="
  let default_ ← if hasDefault then (do return " = " ++ (← g.expression)) else pure ""
  return (match mode with
    | some m => m ++ " "
    | none => "") ++ named ++ default_

/-- A routine: its name, and its parameters if there are any. -/
def routine (g : Grammar) : Reader String := do
  let name ← objectName
  if ← sign "(" then
    if ← sign ")" then return name
    else
      let parameters ← commaList (routineParameter g)
      needSign ")"
      return name ++ "(" ++ joined parameters ++ ")"
  else return name

/-- The change of a table that fires a trigger. -/
def triggerEvent : Reader String := do
  match ← needOneOf ["INSERT", "UPDATE", "DELETE", "TRUNCATE"] with
  | "UPDATE" =>
    match ← after "OF" (commaList identifier) with
    | some cols => return "UPDATE OF " ++ joined cols
    | none => return "UPDATE"
  | event => return event

/-- A name for the rows before or after a change, if one comes next. -/
def transitionTable : Reader (Option String) := do
  let kind ←
    if ← words ["OLD", "TABLE"] then pure (some "OLD TABLE")
    else if ← words ["NEW", "TABLE"] then pure (some "NEW TABLE")
    else pure none
  match kind with
  | none => return none
  | some kind =>
    let as ← if ← word "AS" then pure " AS " else pure " "
    return some (kind ++ as ++ (← objectName))

/-- A new trigger behind its keyword; `start` is what stands before the keyword. -/
def createTrigger (g : Grammar) (start : String) : Reader String := do
  let name ← objectName
  let period ← match ← needOneOf ["BEFORE", "AFTER", "INSTEAD"] with
    | "INSTEAD" => do
      need "OF"
      pure "INSTEAD OF"
    | period => pure period
  let first ← triggerEvent
  let events ← many (after "OR" triggerEvent)
  need "ON"
  let table ← objectName
  let origin ← after "FROM" objectName
  let timing ← constraintTiming
  let transitions ← if ← word "REFERENCING" then many transitionTable else pure []
  need "FOR"
  let each := if ← word "EACH" then "EACH " else ""
  let unit ← needOneOf ["ROW", "STATEMENT"]
  let condition ← after "WHEN" g.expression
  need "EXECUTE"
  let kind ← needOneOf ["FUNCTION", "PROCEDURE"]
  let body ← routine g
  return "CREATE " ++ start ++ "TRIGGER " ++ name ++ " " ++ period ++ " "
    ++ String.intercalate " OR " (first :: events) ++ " ON " ++ table
    ++ clause (origin.map ("FROM " ++ ·)) ++ timing
    ++ (if transitions.isEmpty then "" else " REFERENCING " ++ String.intercalate " " transitions)
    ++ " FOR " ++ each ++ unit ++ clause (condition.map ("WHEN " ++ ·)) ++ " EXECUTE " ++ kind ++ " "
    ++ body

/-- A statement behind `DROP TRIGGER`. -/
def dropTrigger : Reader String := do
  let when_ ← ifExists
  let name ← objectName
  need "ON"
  let table ← objectName
  return "DROP TRIGGER " ++ when_ ++ name ++ " ON " ++ table ++ (← dependents)

/-- A statement that drops routines, behind the keyword of their kind. -/
def dropRoutines (g : Grammar) (kind : String) : Reader String := do
  let when_ ← ifExists
  let routines ← commaList (routine g)
  return "DROP " ++ kind ++ " " ++ when_ ++ joined routines ++ (← dependents)

end Reader
end Sql
end SqlCells
