import SqlCells.Sql.Normal.Expression

/-!
# Queries and changes

Queries with everything that may stand around a selection, the tables they draw from, and the
statements that insert, update and delete rows, which may stand behind the same `WITH`.
-/

namespace SqlCells
namespace Sql

/-- A table, a query or a join that rows are drawn from. -/
structure Relation where
  body : String
  aliasText : Option String := none
  /-- What stands behind the alias. -/
  tail : String := ""
  /-- Whether it is a join in parentheses. -/
  isJoin : Bool := false

/-- A relation in normal form. -/
def Relation.text (r : Relation) : String :=
  r.body ++ (match r.aliasText with
    | some a => " AS " ++ a
    | none => "") ++ r.tail

/-- A relation and the joins behind it. -/
structure Joined where
  relation : Relation
  joins : List String

/-- A relation with its joins in normal form. -/
def Joined.text (j : Joined) : String :=
  j.relation.text ++ String.join j.joins

/-- A clause behind a blank, or nothing. -/
def clause : Option String → String
  | some text => " " ++ text
  | none => ""

namespace Reader

/-- The condition of a join. -/
def joinConstraint (g : Grammar) : Reader String := do
  if ← word "ON" then return " ON " ++ (← g.expression)
  else if ← word "USING" then return " USING" ++ (← columns)
  else return ""

/-- The kind of join behind `LEFT` or `RIGHT`. -/
def sideJoin (side : String) : Reader String := do
  match ← oneOf ["OUTER", "SEMI", "ANTI", "JOIN"] with
  | some "OUTER" =>
    need "JOIN"
    return side ++ " JOIN "
  | some "JOIN" => return side ++ " JOIN "
  | some kind =>
    need "JOIN"
    return side ++ " " ++ kind ++ " JOIN "
  | none => throw (.refused ("expected OUTER, SEMI, ANTI or JOIN after " ++ side) none)

/-- A join, if one comes next; `relation` reads what is joined. -/
def join (g : Grammar) (relation : Reader Relation) : Reader (Option String) := do
  let whole := if ← word "GLOBAL" then " GLOBAL " else " "
  if ← word "CROSS" then
    if ← word "JOIN" then return some (whole ++ "CROSS JOIN " ++ (← relation).text)
    else if ← word "APPLY" then return some (whole ++ "CROSS APPLY " ++ (← relation).text)
    else expected "JOIN or APPLY after CROSS"
  else if ← word "OUTER" then
    need "APPLY"
    return some (whole ++ "OUTER APPLY " ++ (← relation).text)
  else
    let natural ← word "NATURAL"
    let kind ← match ← peekWord with
      | some "INNER" | some "JOIN" =>
        let _ ← word "INNER"
        need "JOIN"
        pure (some "JOIN ")
      | some "LEFT" =>
        let _ ← next
        (do return some (← sideJoin "LEFT"))
      | some "RIGHT" =>
        let _ ← next
        (do return some (← sideJoin "RIGHT"))
      | some "FULL" =>
        let _ ← next
        let _ ← word "OUTER"
        need "JOIN"
        pure (some "FULL JOIN ")
      | some "OUTER" => expected "LEFT, RIGHT, or FULL"
      | _ => if natural then expected "a join type after NATURAL" else pure none
    match kind with
    | none => return none
    | some kind =>
      let r ← relation
      if natural then return some (whole ++ "NATURAL " ++ kind ++ r.text)
      else return some (whole ++ kind ++ r.text ++ (← joinConstraint g))

/-- A query in parentheses as a relation, behind the opening parenthesis. -/
def derivedRelation (g : Grammar) (lateral : String) : Reader Relation := do
  let q ← g.query
  needSign ")"
  return { body := lateral ++ "(" ++ q ++ ")", aliasText := ← tableAlias }

/-- Rows of values behind `VALUES`. -/
def valueRows (g : Grammar) : Reader String := do
  let row : Reader (String × Bool) := do
    let explicit ← word "ROW"
    let items ← parenthesized (commaList g.expression)
    return ("(" ++ joined items ++ ")", explicit)
  let rows ← commaList row
  let start := if rows.any Prod.snd then "ROW" else ""
  return "VALUES " ++ joined (rows.map fun r => start ++ r.1)

/-- A table with its alias, or a function that yields one. -/
def namedRelation (g : Grammar) : Reader Relation := do
  let name ← objectName
  let parts ← match ← after "PARTITION" identifierList with
    | some p => pure (" PARTITION " ++ p)
    | none => pure ""
  let args ←
    if ← sign "(" then
      if ← sign ")" then pure "()"
      else do
        let items ← commaList (functionArgument g)
        needSign ")"
        pure ("(" ++ joined items ++ ")")
    else pure ""
  let ordinality := if ← words ["WITH", "ORDINALITY"] then " WITH ORDINALITY" else ""
  let aliasText ← tableAlias
  let hints ←
    if wordOf (← peek) = some "WITH" ∧ isSign "(" (← peekAt 1) then do
      let _ ← next
      let items ← parenthesized (commaList g.expression)
      pure (" WITH (" ++ joined items ++ ")")
    else pure ""
  return { body := name ++ parts ++ args ++ ordinality, aliasText, tail := hints }

/-- What stands behind an opening parenthesis where a relation may: a query, a join, or a relation
that needs no parentheses; `inner` reads a relation with its joins. -/
def parenthesizedRelation (g : Grammar) (inner : Reader Joined) : Reader Relation := do
  match ← maybe (derivedRelation g "") with
  | some r => return r
  | none =>
    let j ← inner
    needSign ")"
    let outer ← tableAlias
    if !j.joins.isEmpty || j.relation.isJoin then
      return { body := "(" ++ j.text ++ ")", aliasText := outer, isJoin := true }
    else
      match outer, j.relation.aliasText with
      | none, _ => return j.relation
      | some a, none => return { j.relation with aliasText := some a }
      | some _, some own => throw (.refused ("duplicate alias " ++ own) none)

/-- A relation without the joins behind it; `inner` reads one with its joins. -/
def relation (g : Grammar) (inner : Reader Joined) : Reader Relation := do
  if ← word "LATERAL" then
    if ← sign "(" then derivedRelation g "LATERAL "
    else
      let name ← objectName
      needSign "("
      let args ← functionArguments g
      return { body := "LATERAL " ++ name ++ args, aliasText := ← tableAlias }
  else if ← word "TABLE" then
    let e ← parenthesized g.expression
    return { body := "TABLE(" ++ e ++ ")", aliasText := ← tableAlias }
  else if ← sign "(" then parenthesizedRelation g inner
  else if wordOf (← peek) = some "VALUES" ∧ isSign "(" (← peekAt 1) then
    let _ ← next
    let rows ← valueRows g
    return { body := "(" ++ rows ++ ")", aliasText := ← tableAlias }
  else if ← word "UNNEST" then
    let items ← parenthesized (commaList g.expression)
    let ordinality := if ← words ["WITH", "ORDINALITY"] then " WITH ORDINALITY" else ""
    return { body := "UNNEST(" ++ joined items ++ ")" ++ ordinality, aliasText := ← tableAlias }
  else namedRelation g

/-- A relation with its joins; at most `n` of them stand inside one another. -/
def joinedUpTo (g : Grammar) : Nat → Reader Joined
  | 0 => throw .tooDeep
  | n + 1 => do
    let first ← relation g (joinedUpTo g n)
    return ⟨first, ← many (join g (relation g (joinedUpTo g n)))⟩

/-- A relation with its joins. -/
def joinedRelation (g : Grammar) : Reader String := do
  return (← joinedUpTo g ((← get).length + 1)).text

/-- What is left out of a star, renamed or replaced. -/
def starOptions (g : Grammar) : Reader String := do
  let ilike ←
    if ← word "ILIKE" then do
      let l ← next
      match l.map Lexeme.token with
      | some (.literal .plain v) => pure (" ILIKE " ++ betweenQuotes '\'' v)
      | _ => unexpected "ilike pattern" l
    else pure ""
  let exclude ←
    if ilike.isEmpty then
      if ← word "EXCLUDE" then
        if isSign "(" (← peek) then (do return " EXCLUDE " ++ (← identifierList))
        else (do return " EXCLUDE " ++ (← identifier))
      else pure ""
    else pure ""
  let except ←
    if ← word "EXCEPT" then
      if isSign "(" (← peek) then (do return " EXCEPT " ++ (← identifierList))
      else (do return " EXCEPT (" ++ (← identifier) ++ ")")
    else pure ""
  let replace ←
    if ← word "REPLACE" then do
      unless isSign "(" (← peek) do
        let l ← next
        unexpected "( after REPLACE but" l
      let items ← parenthesized (commaList do
        let e ← g.expression
        let as ← word "AS"
        let name ← identifier
        return e ++ (if as then " AS " else " ") ++ name)
      pure (" REPLACE (" ++ joined items ++ ")")
    else pure ""
  let renamed : Reader String := do
    let old ← identifier
    let _ ← word "AS"
    return old ++ " AS " ++ (← identifier)
  let rename ←
    if ← word "RENAME" then
      if isSign "(" (← peek) then
        (do return " RENAME (" ++ joined (← parenthesized (commaList renamed)) ++ ")")
      else (do return " RENAME " ++ (← renamed))
    else pure ""
  return ilike ++ exclude ++ except ++ replace ++ rename

/-- An item of a selection, with its alias. -/
def selectItem (g : Grammar) : Reader String := do
  let term ← starTerm g
  if term.star then return term.text ++ (← starOptions g)
  else if Text.lower term.text.toList = "from".toList then
    throw (.refused ("Expected an expression, found: " ++ term.text) (← place))
  else
    match ← aliasName columnAliasReserved with
    | some name => return term.text ++ " AS " ++ name
    | none => return term.text

/-- `DISTINCT` and what it looks at. -/
def distinctness (g : Grammar) : Reader String := do
  let place ← place
  let all ← word "ALL"
  if ← word "DISTINCT" then
    if all then throw (.refused "Cannot specify both ALL and DISTINCT" place)
    if ← word "ON" then
      needSign "("
      if ← sign ")" then return " DISTINCT ON ()"
      let items ← commaList g.expression
      needSign ")"
      return " DISTINCT ON (" ++ joined items ++ ")"
    else return " DISTINCT"
  else return ""

/-- The number of rows behind `TOP`. -/
def topRows (g : Grammar) : Reader String := do
  let quantity ←
    if ← sign "(" then do
      let e ← g.expression
      needSign ")"
      pure ("(" ++ e ++ ")")
    else wholeNumber
  let percent := if ← word "PERCENT" then " PERCENT" else ""
  let ties := if ← words ["WITH", "TIES"] then " WITH TIES" else ""
  return "TOP " ++ quantity ++ percent ++ ties

/-- Expressions in parentheses, or one without them if that is allowed. -/
def groupSet (g : Grammar) (bare : Bool) : Reader (List String) := do
  if bare && !isSign "(" (← peek) then return [← g.expression]
  needSign "("
  if ← sign ")" then return []
  let items ← commaList g.expression
  needSign ")"
  return items

/-- What rows are grouped by. -/
def groupTerm (g : Grammar) : Reader String := do
  let sets (name : String) : Reader String := do
    let items ← parenthesized (commaList (groupSet g true))
    let set (es : List String) : String := match es with
      | [e] => e
      | _ => "(" ++ joined es ++ ")"
    return name ++ " (" ++ joined (items.map set) ++ ")"
  if ← words ["GROUPING", "SETS"] then
    let items ← parenthesized (commaList (groupSet g false))
    return "GROUPING SETS (" ++ joined (items.map fun es => "(" ++ joined es ++ ")") ++ ")"
  else if ← word "CUBE" then sets "CUBE"
  else if ← word "ROLLUP" then sets "ROLLUP"
  else if isSign "(" (← peek) && isSign ")" (← peekAt 1) then
    modify (·.drop 2)
    return "()"
  else g.expression

/-- `GROUP BY`, if it comes next. -/
def grouping (g : Grammar) : Reader (Option String) := do
  if ← words ["GROUP", "BY"] then
    let terms ← if ← word "ALL" then pure "ALL" else (do return joined (← commaList (groupTerm g)))
    let modifiers ← many do
      if ← word "WITH" then return some (" WITH " ++ (← needOneOf ["ROLLUP", "CUBE", "TOTALS"]))
      else return none
    return some ("GROUP BY " ++ terms ++ String.join modifiers)
  else return none

/-- A window with its name. -/
def namedWindow (g : Grammar) : Reader String := do
  let name ← identifier
  need "AS"
  if ← sign "(" then return name ++ " AS " ++ (← windowSpecification g)
  else if isSign "(" (← peek) then expected "("
  else return name ++ " AS " ++ (← identifier)

/-- Expressions behind two keywords, if the keywords come next. -/
def listAfter (g : Grammar) (first second : String) : Reader (Option String) := do
  if ← words [first, second] then
    return some (first ++ " " ++ second ++ " " ++ joined (← commaList g.expression))
  else return none

/-- Windows and the condition on them, in either order. -/
def windows (g : Grammar) : Reader String := do
  let named : Reader (Option String) := do
    match ← after "WINDOW" (commaList (namedWindow g)) with
    | some ws => return some ("WINDOW " ++ joined ws)
    | none => return none
  let condition : Reader (Option String) := do
    match ← after "QUALIFY" g.expression with
    | some e => return some ("QUALIFY " ++ e)
    | none => return none
  match ← named with
  | some w => return clause (some w) ++ clause (← condition)
  | none =>
    match ← condition with
    | some q => return clause (some q) ++ clause (← named)
    | none => return ""

/-- A selection behind its keyword. -/
def selection (g : Grammar) : Reader String := do
  let distinct ← distinctness g
  let top ← after "TOP" (topRows g)
  let items ← commaList (selectItem g)
  let into ←
    if ← word "INTO" then do
      let temporary := match ← oneOf ["TEMPORARY", "TEMP"] with
        | some _ => "TEMPORARY "
        | none => ""
      let unlogged := if ← word "UNLOGGED" then "UNLOGGED " else ""
      let table := if ← word "TABLE" then "TABLE " else ""
      let name ← objectName
      pure (some ("INTO " ++ temporary ++ unlogged ++ table ++ name))
    else pure none
  let origins ← after "FROM" (commaList (joinedRelation g))
  let early ← after "PREWHERE" g.expression
  let condition ← after "WHERE" g.expression
  let group ← grouping g
  let cluster ← listAfter g "CLUSTER" "BY"
  let distribute ← listAfter g "DISTRIBUTE" "BY"
  let sort ← listAfter g "SORT" "BY"
  let having ← after "HAVING" g.expression
  let window ← windows g
  return "SELECT" ++ distinct ++ clause top ++ " " ++ joined items ++ clause into
    ++ clause (origins.map fun rs => "FROM " ++ joined rs)
    ++ clause (early.map ("PREWHERE " ++ ·)) ++ clause (condition.map ("WHERE " ++ ·))
    ++ clause group ++ clause cluster ++ clause distribute ++ clause sort
    ++ clause (having.map ("HAVING " ++ ·)) ++ window

/-- The operator between two selections, if one comes next, with its strength. -/
def setOperator : Reader (Option (String × Nat)) := do
  match ← peekWord with
  | some "UNION" => return some ("UNION", 10)
  | some "EXCEPT" => return some ("EXCEPT", 10)
  | some "INTERSECT" => return some ("INTERSECT", 20)
  | _ => return none

/-- Whether rows are kept apart by a set operator. -/
def setQuantifier (op : String) : Reader String := do
  let named ← if op = "UNION" then words ["DISTINCT", "BY", "NAME"] else pure false
  if named then return " DISTINCT BY NAME"
  let named ← if op = "UNION" then words ["BY", "NAME"] else pure false
  if named then return " BY NAME"
  if ← word "ALL" then
    let named ← if op = "UNION" then words ["BY", "NAME"] else pure false
    return if named then " ALL BY NAME" else " ALL"
  if ← word "DISTINCT" then return " DISTINCT"
  return ""

/-- A selection, a query in parentheses, rows of values, or a whole table. -/
def simpleQuery (g : Grammar) : Reader String := do
  if ← word "SELECT" then selection g
  else if isSign "(" (← peek) then subquery g
  else if ← word "VALUES" then valueRows g
  else if ← word "TABLE" then return "TABLE " ++ (← objectName)
  else expected "SELECT, VALUES, or a subquery in the query body"

/-- Goes on behind a query with set operators that bind more tightly than `strength`; `right` reads
a right side and at most `n` operators are read. -/
def moreSets (right : Nat → Reader String) (strength : Nat) : Nat → String → Reader String
  | 0, left => return left
  | n + 1, left => do
    match ← setOperator with
    | none => return left
    | some (op, s) =>
      if s ≤ strength then return left
      else
        let _ ← next
        let quantifier ← setQuantifier op
        let r ← right s
        moreSets right strength n (left ++ " " ++ op ++ quantifier ++ " " ++ r)

/-- Queries between set operators that bind more tightly than `strength`; at most `n` right sides
stand inside one another. -/
def setsUpTo (g : Grammar) : (n strength : Nat) → Reader String
  | 0, _ => throw .tooDeep
  | n + 1, strength => do
    let first ← simpleQuery g
    moreSets (setsUpTo g n) strength ((← get).length + 1) first

/-- A named query of a `WITH`. -/
def commonTable (g : Grammar) : Reader String := do
  let name ← identifier
  let cols ← if ← word "AS" then pure none else do
    let cols ← columns?
    need "AS"
    pure (some cols)
  let q ← subquery g
  let origin ← after "FROM" identifier
  let header := match cols with
    | none | some "" => name
    | some cols => name ++ " " ++ cols
  return header ++ " AS " ++ q ++ clause (origin.map ("FROM " ++ ·))

/-- The number of rows to return, if it is bounded. -/
def limitRows (g : Grammar) : Reader (Option String) := do
  if ← word "ALL" then return none else return some (← g.expression)

/-- The number of rows to pass over. -/
def offsetRows (g : Grammar) : Reader String := do
  let e ← g.expression
  return e ++ clause (← oneOf ["ROWS", "ROW"])

/-- How many rows are passed over and returned; the parts may come in either order. -/
structure Slice where
  limit : Option String := none
  offset : Option String := none

/-- Reads one more part of a slice. -/
def slicePart (g : Grammar) (s : Slice) : Reader Slice := do
  let s ←
    if s.limit.isNone then
      if ← word "LIMIT" then (do return { s with limit := ← limitRows g }) else pure s
    else pure s
  let s ←
    if s.offset.isNone then
      if ← word "OFFSET" then (do return { s with offset := some (← offsetRows g) }) else pure s
    else pure s
  match s.limit, s.offset with
  | some count, none =>
    if ← sign "," then return { limit := some (← g.expression), offset := some count }
    else return s
  | _, _ => return s

/-- The standard form of a bound on rows, behind its keyword. -/
def fetchRows : Reader String := do
  let _ ← needOneOf ["FIRST", "NEXT"]
  let quantity ← match ← oneOf ["ROW", "ROWS"] with
    | some _ => pure ""
    | none => do
      let n ← concreteValue
      let percent := if ← word "PERCENT" then " PERCENT" else ""
      let _ ← needOneOf ["ROW", "ROWS"]
      pure (" " ++ n ++ percent)
  if ← word "ONLY" then return "FETCH FIRST" ++ quantity ++ " ROWS ONLY"
  else if ← words ["WITH", "TIES"] then return "FETCH FIRST" ++ quantity ++ " ROWS WITH TIES"
  else expected "one of ONLY or WITH TIES"

/-- A lock on the rows that are read, if one comes next. -/
def rowLock : Reader (Option String) := do
  if ← word "FOR" then
    let kind ← needOneOf ["UPDATE", "SHARE"]
    let of ← after "OF" objectName
    let wait ←
      if ← word "NOWAIT" then pure (some "NOWAIT")
      else if ← words ["SKIP", "LOCKED"] then pure (some "SKIP LOCKED")
      else pure none
    return some ("FOR " ++ kind ++ clause (of.map ("OF " ++ ·)) ++ clause wait)
  else return none

/-- What follows the body of a query. -/
def queryTail (g : Grammar) : Reader String := do
  let order ← orderBy? g
  let slice ← slicePart g {}
  let slice ← slicePart g slice
  let per ← after "BY" (commaList g.expression)
  let fetch ← after "FETCH" fetchRows
  let locks ← many rowLock
  let format ← after "FORMAT" identifier
  return clause order ++ clause (slice.limit.map ("LIMIT " ++ ·))
    ++ clause (slice.offset.map ("OFFSET " ++ ·))
    ++ clause (per.map fun es => "BY " ++ joined es) ++ clause fetch
    ++ String.join (locks.map fun l => " " ++ l) ++ clause (format.map ("FORMAT " ++ ·))

/-- A value given to a column or to several. -/
def assignment (g : Grammar) : Reader String := do
  let target ←
    if isSign "(" (← peek) then
      (do return "(" ++ joined (← parenthesized (commaList objectName)) ++ ")")
    else objectName
  needSign "="
  return target ++ " = " ++ (← g.expression)

/-- What is returned of changed rows. -/
def returning (g : Grammar) : Reader (Option String) := do
  match ← after "RETURNING" (commaList (selectItem g)) with
  | some items => return some ("RETURNING " ++ joined items)
  | none => return none

/-- An update behind its keyword. -/
def update (g : Grammar) : Reader String := do
  let table ← joinedRelation g
  need "SET"
  let values ← commaList (assignment g)
  let origin ← after "FROM" (joinedRelation g)
  let condition ← after "WHERE" g.expression
  let back ← returning g
  return "UPDATE " ++ table ++ " SET " ++ joined values ++ clause (origin.map ("FROM " ++ ·))
    ++ clause (condition.map ("WHERE " ++ ·)) ++ clause back

/-- A deletion behind its keyword. -/
def delete (g : Grammar) : Reader String := do
  let origin := if ← word "FROM" then "FROM " else ""
  let tables ← commaList (joinedRelation g)
  let others ← after "USING" (commaList (joinedRelation g))
  let condition ← after "WHERE" g.expression
  let back ← returning g
  let order ← orderBy? g
  let limit ← after "LIMIT" (limitRows g)
  return "DELETE " ++ origin ++ joined tables ++ clause (others.map fun rs => "USING " ++ joined rs)
    ++ clause (condition.map ("WHERE " ++ ·)) ++ clause back ++ clause order
    ++ clause (limit.join.map ("LIMIT " ++ ·))

/-- What an insertion does about rows that exist already, behind `ON`. -/
def onConflict (g : Grammar) : Reader String := do
  if ← word "CONFLICT" then
    let target ←
      if ← words ["ON", "CONSTRAINT"] then (do return " ON CONSTRAINT " ++ (← objectName))
      else columns?
    need "DO"
    if ← word "NOTHING" then return " ON CONFLICT" ++ target ++ " DO NOTHING"
    needAll ["UPDATE", "SET"]
    let values ← commaList (assignment g)
    let condition ← after "WHERE" g.expression
    return " ON CONFLICT" ++ target ++ " DO UPDATE SET " ++ joined values
      ++ clause (condition.map ("WHERE " ++ ·))
  else
    needAll ["DUPLICATE", "KEY", "UPDATE"]
    return " ON DUPLICATE KEY UPDATE " ++ joined (← commaList (assignment g))

/-- An insertion behind its keyword, which is given. -/
def insert (g : Grammar) (verb : String) : Reader String := do
  let priority ← oneOf ["LOW_PRIORITY", "DELAYED", "HIGH_PRIORITY"]
  let ignore := if ← word "IGNORE" then " IGNORE" else ""
  let target := clause (← oneOf ["INTO", "OVERWRITE"])
  let tableWord := if ← word "TABLE" then " TABLE" else ""
  let table ← objectName
  let source ←
    if ← words ["DEFAULT", "VALUES"] then pure "DEFAULT VALUES"
    else do
      let opensQuery := isSign "(" (← peek) && wordOf (← peekAt 1) == some "SELECT"
      let cols ← if opensQuery then pure "" else columns?
      let q ← g.query
      pure ((if cols.isEmpty then "" else cols ++ " ") ++ q)
  let row ←
    if ← word "AS" then do
      let name ← objectName
      let cols ← columns?
      pure (some ("AS " ++ name ++ (if cols.isEmpty then "" else " " ++ cols)))
    else pure none
  let conflict ← after "ON" (onConflict g)
  let back ← returning g
  return verb ++ clause priority ++ ignore ++ target ++ tableWord ++ " " ++ table ++ " "
    ++ source ++ clause row ++ conflict.getD "" ++ clause back

/-- A query, its parts being read one level deeper. -/
def query (g : Grammar) : Reader String := do
  let names ←
    if ← word "WITH" then do
      let recursive := if ← word "RECURSIVE" then "RECURSIVE " else ""
      let tables ← commaList (commonTable g)
      pure ("WITH " ++ recursive ++ joined tables ++ " ")
    else pure ""
  if ← word "INSERT" then return names ++ (← insert g "INSERT")
  else if ← word "UPDATE" then return names ++ (← update g)
  else
    let body ← setsUpTo g ((← get).length + 1) 0
    return names ++ body ++ (← queryTail g)

end Reader
end Sql
end SqlCells
