import SqlCells.Sql.Normal.DataType

/-!
# Expressions

Expressions are read by precedence: an operand, and then operators as long as they bind more tightly
than what stands before.  `Grammar.expression` reads an expression that stands inside another and
counts as one level deeper; an operand of an operator stays on its level.
-/

namespace SqlCells
namespace Sql

/-- How tightly operators bind, from loose to tight. -/
inductive Precedence where
  | none
  | or
  | and
  | not
  | other
  | is
  | like
  | comparison
  | pipe
  | caret
  | ampersand
  | xor
  | sum
  | product
  | timeZone
  | postfix_
  deriving DecidableEq, Repr

/-- The strength of a precedence. -/
def Precedence.strength : Precedence → Nat
  | .none => 0
  | .or => 5
  | .and => 10
  | .not => 15
  | .other => 16
  | .is => 17
  | .like => 19
  | .comparison => 20
  | .pipe => 21
  | .caret => 22
  | .ampersand => 23
  | .xor => 24
  | .sum => 30
  | .product => 40
  | .timeZone => 41
  | .postfix_ => 50

/-- Signs that are operators between two expressions, with their precedence. -/
def signPrecedence : String → Precedence
  | "=" | "<" | "<=" | "<>" | ">" | ">=" | "==" | "<=>" | "~" | "~*" | "!~" | "!~*" | "~~" | "~~*"
  | "!~~" | "!~~*" => .comparison
  | "|" => .pipe
  | "^" | "#" | ">>" | "<<" => .caret
  | "&" => .ampersand
  | "+" | "-" => .sum
  | "*" | "/" | "//" | "%" | "||" => .product
  | "::" | "!" | "[" | "&&" | "^@" => .postfix_
  | "->" | "->>" | "#>" | "#>>" | "@>" | "<@" | "#-" | "@?" | "@@" => .other
  | _ => .none

/-- The precedence of the operator that comes next; none when no operator does. -/
def Reader.nextPrecedence : Reader Precedence := do
  let ls ← get
  let wordAt (n : Nat) : Option String := Reader.wordOf ls[n]?
  match wordAt 0 with
  | some "OR" => return .or
  | some "AND" => return .and
  | some "XOR" => return .xor
  | some "AT" =>
    return if wordAt 1 = some "TIME" ∧ wordAt 2 = some "ZONE" then .timeZone else .none
  | some "NOT" =>
    match wordAt 1 with
    | some "IN" | some "BETWEEN" => return .comparison
    | some "LIKE" | some "ILIKE" | some "RLIKE" | some "REGEXP" | some "SIMILAR" => return .like
    | _ => return .none
  | some "IS" => return .is
  | some "IN" | some "BETWEEN" | some "OPERATOR" => return .comparison
  | some "LIKE" | some "ILIKE" | some "RLIKE" | some "REGEXP" | some "SIMILAR" => return .like
  | some "DIV" => return .product
  | some _ => return .none
  | none =>
    match ls.head?.map Lexeme.token with
    | some (.symbol s) => return signPrecedence s
    | _ => return .none

namespace Reader

/-- A term where a star may stand: its text, and whether it is a star. -/
structure StarTerm where
  text : String
  star : Bool

/-- The star behind a qualified name, if the lexemes after the first part lead to one: the text of
the whole and the rest. -/
def qualifiedStar (name : String) : List Lexeme → Except SyntaxFlaw (Option (String × List Lexeme))
  | dot :: l :: rest =>
    if dot.token ≠ .symbol "." then .ok none
    else
      match l.token.name? with
      | some part => qualifiedStar (name ++ "." ++ part) rest
      | none =>
        if l.token = .symbol "*" then .ok (some (name ++ ".*", rest))
        else .error (.expected "an identifier or a '*' after '.'" (some (l.token, l.location)))
  | [l] =>
    if l.token = .symbol "." then .error (.expected "an identifier or a '*' after '.'" none)
    else .ok none
  | [] => .ok none

/-- An expression, or a star that may be qualified. -/
def starTerm (g : Grammar) : Reader StarTerm := do
  match ← get with
  | l :: rest =>
    if l.token = .symbol "*" then
      set rest
      return ⟨"*", true⟩
    match l.token.name? with
    | some name =>
      match ← liftM (qualifiedStar name rest) with
      | some (text, rest) =>
        set rest
        return ⟨text, true⟩
      | none => return ⟨← g.expression, false⟩
    | none => return ⟨← g.expression, false⟩
  | [] => return ⟨← g.expression, false⟩

/-- An expression to order by, with its direction. -/
def orderTerm (g : Grammar) : Reader String := do
  let e ← g.expression
  let direction := match ← oneOf ["ASC", "DESC"] with
    | some d => " " ++ d
    | none => ""
  let nulls ←
    if ← words ["NULLS", "FIRST"] then pure " NULLS FIRST"
    else if ← words ["NULLS", "LAST"] then pure " NULLS LAST"
    else pure ""
  return e ++ direction ++ nulls

/-- `ORDER BY` with its terms, if it comes next. -/
def orderBy? (g : Grammar) : Reader (Option String) := do
  if ← words ["ORDER", "BY"] then
    return some ("ORDER BY " ++ joined (← commaList (orderTerm g)))
  else return none

/-- How nulls are treated by a window function, if it is said. -/
def nullTreatment : Reader (Option String) := do
  match ← oneOf ["RESPECT", "IGNORE"] with
  | some w =>
    need "NULLS"
    return some (w ++ " NULLS")
  | none => return none

/-- An argument of a function, which may be named. -/
def functionArgument (g : Grammar) : Reader String := do
  if isSign "=>" (← peekAt 1) then
    let name ← identifier
    needSign "=>"
    return name ++ " => " ++ (← starTerm g).text
  else return (← starTerm g).text

/-- The arguments of a function behind the opening parenthesis. -/
def functionArguments (g : Grammar) : Reader String := do
  if ← sign ")" then return "()"
  let place ← place
  let all ← word "ALL"
  let distinct ← word "DISTINCT"
  if all && distinct then throw (.refused "Cannot specify both ALL and DISTINCT" place)
  let treatment := if all then "ALL " else if distinct then "DISTINCT " else ""
  let args ← commaList (functionArgument g)
  let nulls ← nullTreatment
  let order ← orderBy? g
  let limit ← after "LIMIT" g.expression
  let separator ← after "SEPARATOR" concreteValue
  needSign ")"
  let clauses := [nulls, order, limit.map ("LIMIT " ++ ·), separator.map ("SEPARATOR " ++ ·)]
  return "(" ++ treatment ++ joined args
    ++ String.join (clauses.filterMap fun c => c.map (" " ++ ·)) ++ ")"

/-- One bound of a window frame. -/
def frameBound (g : Grammar) : Reader String := do
  if ← words ["CURRENT", "ROW"] then return "CURRENT ROW"
  let rows ← if ← word "UNBOUNDED" then pure "UNBOUNDED" else g.expression
  if ← word "PRECEDING" then return rows ++ " PRECEDING"
  need "FOLLOWING"
  return rows ++ " FOLLOWING"

/-- A window frame. -/
def windowFrame (g : Grammar) : Reader String := do
  match ← oneOf ["ROWS", "RANGE", "GROUPS"] with
  | none =>
    let l ← next
    unexpected "ROWS, RANGE, GROUPS" l
  | some unit =>
    if ← word "BETWEEN" then
      let low ← frameBound g
      need "AND"
      let high ← frameBound g
      return unit ++ " BETWEEN " ++ low ++ " AND " ++ high
    else return unit ++ " " ++ (← frameBound g)

/-- What describes a window, up to the closing parenthesis. -/
def windowSpecification (g : Grammar) : Reader String := do
  let name ← match ← peek with
    | some l => if isPlainWord l then (do return some (← identifier)) else pure none
    | none => pure none
  let parts ←
    if ← words ["PARTITION", "BY"] then
      (do return some ("PARTITION BY " ++ joined (← commaList g.expression)))
    else pure none
  let order ← orderBy? g
  let frame ←
    if ← sign ")" then pure none
    else do
      let f ← windowFrame g
      needSign ")"
      pure (some f)
  return "(" ++ String.intercalate " " ([name, parts, order, frame].filterMap id) ++ ")"

/-- A call of a function whose name has been read. -/
def functionCall (g : Grammar) (name : String) : Reader String := do
  needSign "("
  let args ← functionArguments g
  let args ← if ← sign "(" then (do return args ++ (← functionArguments g)) else pure args
  let within ←
    if ← words ["WITHIN", "GROUP"] then do
      let terms ← parenthesized do
        needAll ["ORDER", "BY"]
        commaList (orderTerm g)
      pure (" WITHIN GROUP (ORDER BY " ++ joined terms ++ ")")
    else pure ""
  let nulls := match ← nullTreatment with
    | some n => " " ++ n
    | none => ""
  let window ←
    if ← word "OVER" then
      if ← sign "(" then (do return " OVER " ++ (← windowSpecification g))
      else (do return " OVER " ++ (← identifier))
    else pure ""
  return name ++ args ++ within ++ nulls ++ window

/-- A name and its further parts, or the function of that name. -/
def nameOrCall (g : Grammar) (first : String) : Reader String := do
  let part : Reader (Option String) := do
    if ← sign "." then
      let l ← next
      match l.bind fun l => l.token.name? with
      | some name => return some ("." ++ name)
      | none =>
        if isSign "*" l then unexpected "an identifier after '.'" l
        else unexpected "an identifier or a '*' after '.'" l
    else return none
  let name := first ++ String.join (← many part)
  if isSign "(" (← peek) then functionCall g name else return name

/-- A query in parentheses. -/
def subquery (g : Grammar) : Reader String := do
  return "(" ++ (← parenthesized g.query) ++ ")"

/-- The fields that may follow an interval as its unit. -/
def intervalUnits : List String :=
  ["YEAR", "MONTH", "WEEK", "DAY", "HOUR", "MINUTE", "SECOND", "CENTURY", "DECADE", "DOW", "DOY",
    "EPOCH", "ISODOW", "ISOYEAR", "JULIAN", "MICROSECOND", "MICROSECONDS", "MILLENIUM",
    "MILLENNIUM", "MILLISECOND", "MILLISECONDS", "NANOSECOND", "NANOSECONDS", "QUARTER",
    "TIMEZONE", "TIMEZONE_HOUR", "TIMEZONE_MINUTE"]

/-- The fields of a date or a time that have a name of their own. -/
def timeFields : List String :=
  intervalUnits ++ ["DATE", "DATETIME", "DAYOFWEEK", "DAYOFYEAR", "ISOWEEK", "TIME",
    "TIMEZONE_ABBR", "TIMEZONE_REGION"]

/-- A field of a date or a time. -/
def timeField : Reader String := do
  let l ← next
  match l.map Lexeme.token with
  | some (.word value none) =>
    let name := (wordOf l).getD value
    return if timeFields.contains name then name else value
  | some (.word value (some q)) => return betweenQuotes q value
  | some (.literal .plain value) => return betweenQuotes '\'' value
  | _ => unexpected "date/time field" l

/-- An interval behind its keyword, `operand` reading its value. -/
def interval (operand : Reader String) : Reader String := do
  let value ← operand
  let unit ← oneOf intervalUnits
  match unit with
  | some "SECOND" => return "INTERVAL " ++ value ++ " SECOND" ++ (← precisionScale?)
  | _ =>
    let leading := match unit with
      | some u => " " ++ u
      | none => ""
    let precision ← precision?
    let last ←
      if ← word "TO" then do
        let field ← timeField
        let fraction ← if field = "SECOND" then precision? else pure ""
        pure (" TO " ++ field ++ fraction)
      else pure ""
    return "INTERVAL " ++ value ++ leading ++ precision ++ last

/-- A literal with its type in front. -/
def typedLiteral (operand : Reader String) : Reader String := do
  let t ← dataType
  if t.custom then expected "a data type name"
  else if t.text = "INTERVAL" then interval operand
  else return t.text ++ " " ++ betweenQuotes '\'' (← literalText)

/-- The branches of a `CASE` behind its first `WHEN`. -/
def caseBranch (g : Grammar) : Reader String := do
  let condition ← g.expression
  need "THEN"
  let result ← g.expression
  return " WHEN " ++ condition ++ " THEN " ++ result

/-- A `CASE` expression behind its keyword. -/
def caseExpression (g : Grammar) : Reader String := do
  let operand ←
    if ← word "WHEN" then pure ""
    else do
      let e ← g.expression
      need "WHEN"
      pure (" " ++ e)
  let first ← caseBranch g
  let more ← many (after "WHEN" (caseBranch g))
  let otherwise ← after "ELSE" g.expression
  need "END"
  return "CASE" ++ operand ++ first ++ String.join more
    ++ (match otherwise with
      | some e => " ELSE " ++ e
      | none => "") ++ " END"

/-- A cast behind its keyword. -/
def castExpression (g : Grammar) (name : String) : Reader String := do
  needSign "("
  let e ← g.expression
  need "AS"
  let t ← dataType
  let format ← after "FORMAT" concreteValue
  needSign ")"
  return name ++ "(" ++ e ++ " AS " ++ t.text ++ (match format with
    | some f => " FORMAT " ++ f
    | none => "") ++ ")"

/-- A conversion behind its keyword. -/
def convertExpression (g : Grammar) : Reader String := do
  needSign "("
  let e ← g.expression
  let target ←
    if ← word "USING" then (do return " USING " ++ (← objectName))
    else do
      needSign ","
      let t ← dataType
      let set ← if ← words ["CHARACTER", "SET"] then (do return " CHARACTER SET " ++ (← objectName))
        else pure ""
      pure (", " ++ t.text ++ set)
  needSign ")"
  return "CONVERT(" ++ e ++ target ++ ")"

/-- A field of a date or time, behind its keyword. -/
def extractExpression (g : Grammar) : Reader String := do
  needSign "("
  let field ← timeField
  let between ←
    if ← word "FROM" then pure " FROM "
    else if ← sign "," then pure ", "
    else expected "'FROM' or ','"
  let e ← g.expression
  needSign ")"
  return "EXTRACT(" ++ field ++ between ++ e ++ ")"

/-- Rounding behind its keyword. -/
def roundingExpression (g : Grammar) (name : String) : Reader String := do
  needSign "("
  let e ← g.expression
  let scale ←
    if ← word "TO" then (do return " TO " ++ (← timeField))
    else if ← sign "," then (do return ", " ++ (← concreteValue))
    else pure ""
  needSign ")"
  return name ++ "(" ++ e ++ scale ++ ")"

/-- A position behind its keyword: of one text in another, or an ordinary function. -/
def positionExpression (g : Grammar) (operand : Nat → Reader String) (name : String) :
    Reader String := do
  let special : Reader String := parenthesized do
    let e ← operand Precedence.comparison.strength
    need "IN"
    return e ++ " IN " ++ (← g.expression)
  match ← maybe special with
  | some inner => return "POSITION(" ++ inner ++ ")"
  | none => functionCall g name

/-- A part of a text behind its keyword. -/
def substringExpression (g : Grammar) : Reader String := do
  needSign "("
  let e ← g.expression
  let commas ← sign ","
  let hasStart ← if commas then pure true else word "FROM"
  let start ← if hasStart then (do return some (← g.expression)) else pure none
  let hasLength ← if ← word "FOR" then pure true else sign ","
  let length ← if hasLength then (do return some (← g.expression)) else pure none
  needSign ")"
  let part (keyword : String) (e : Option String) : String := match e with
    | some e => (if commas then ", " else keyword) ++ e
    | none => ""
  return "SUBSTRING(" ++ e ++ part " FROM " start ++ part " FOR " length ++ ")"

/-- A replacement inside a text, behind its keyword. -/
def overlayExpression (g : Grammar) : Reader String := do
  needSign "("
  let e ← g.expression
  need "PLACING"
  let what ← g.expression
  need "FROM"
  let start ← g.expression
  let length ← after "FOR" g.expression
  needSign ")"
  return "OVERLAY(" ++ e ++ " PLACING " ++ what ++ " FROM " ++ start ++ (match length with
    | some n => " FOR " ++ n
    | none => "") ++ ")"

/-- Trimming behind its keyword. -/
def trimExpression (g : Grammar) : Reader String := do
  needSign "("
  let side := match ← oneOf ["BOTH", "LEADING", "TRAILING"] with
    | some w => w ++ " "
    | none => ""
  let e ← g.expression
  let inner ←
    if ← word "FROM" then (do return e ++ " FROM " ++ (← g.expression))
    else if ← sign "," then (do return e ++ ", " ++ joined (← commaList g.expression))
    else pure e
  needSign ")"
  return "TRIM(" ++ side ++ inner ++ ")"

/-- A full-text search behind its keyword. -/
def matchExpression : Reader String := do
  let cols ← columns
  need "AGAINST"
  needSign "("
  let value ← concreteValue
  let modifier ←
    if ← words ["IN", "NATURAL", "LANGUAGE", "MODE"] then
      if ← words ["WITH", "QUERY", "EXPANSION"] then
        pure " IN NATURAL LANGUAGE MODE WITH QUERY EXPANSION"
      else pure " IN NATURAL LANGUAGE MODE"
    else if ← words ["IN", "BOOLEAN", "MODE"] then pure " IN BOOLEAN MODE"
    else if ← words ["WITH", "QUERY", "EXPANSION"] then pure " WITH QUERY EXPANSION"
    else pure ""
  needSign ")"
  return "MATCH " ++ cols ++ " AGAINST (" ++ value ++ modifier ++ ")"

/-- The elements of an array behind the opening bracket. -/
def arrayElements (g : Grammar) : Reader String := do
  if ← sign "]" then return "[]"
  let items ← commaList g.expression
  needSign "]"
  return "[" ++ joined items ++ "]"

/-- A field of a record: its name and its value. -/
def recordField (g : Grammar) : Reader String := do
  let name ← identifier
  needSign ":"
  return name ++ ": " ++ (← g.expression)

/-- The fields of a record behind the opening brace. -/
def recordFields (g : Grammar) : Reader String := do
  let fields ← if isSign "\x7d" (← peek) then pure [] else commaList (recordField g)
  needSign "\x7d"
  return "\x7b" ++ joined fields ++ "\x7d"

/-- What stands behind an opening parenthesis: a query, an expression, or a row of them. -/
def parenthesizedExpression (g : Grammar) : Reader String := do
  let inner ← match ← peekWord with
    | some "SELECT" | some "WITH" => g.query
    | _ => (do return joined (← commaList g.expression))
  needSign ")"
  let e := "(" ++ inner ++ ")"
  if ← sign "." then
    let l ← next
    match l with
    | none => throw (.refused "Expected identifier, found: EOF" none)
    | some lexeme =>
      match lexeme.token with
      | .word _ _ => return e ++ "." ++ (lexeme.token.name?).getD ""
      | t => throw (.refused ("Expected identifier, found: " ++ t.label) (some lexeme.location))
  else return e

/-- An expression that starts with the bare word `value`, which has been read. -/
def wordExpression (g : Grammar) (operand : Nat → Reader String) (name value : String) :
    Reader String := do
  let ahead ← peek
  match name with
  | "TRUE" => return "true"
  | "FALSE" => return "false"
  | "NULL" => return "NULL"
  | "CURRENT_CATALOG" | "CURRENT_USER" | "SESSION_USER" | "USER" => return value
  | "CURRENT_TIMESTAMP" | "CURRENT_TIME" | "CURRENT_DATE" | "LOCALTIME" | "LOCALTIMESTAMP" =>
    if ← sign "(" then return value ++ (← functionArguments g) else return value
  | "CASE" => caseExpression g
  | "CONVERT" => convertExpression g
  | "CAST" | "TRY_CAST" | "SAFE_CAST" => castExpression g name
  | "EXISTS" => return "EXISTS " ++ (← subquery g)
  | "EXTRACT" => extractExpression g
  | "CEIL" | "FLOOR" => roundingExpression g name
  | "SUBSTRING" => substringExpression g
  | "OVERLAY" => overlayExpression g
  | "TRIM" => trimExpression g
  | "INTERVAL" => interval (operand Precedence.postfix_.strength)
  | "MATCH" => matchExpression
  | "NOT" =>
    if ← word "EXISTS" then return "NOT EXISTS " ++ (← subquery g)
    else return "NOT " ++ (← operand Precedence.not.strength)
  | "POSITION" =>
    if isSign "(" ahead then positionExpression g operand value else nameOrCall g value
  | "ARRAY" =>
    if ← sign "[" then return "ARRAY" ++ (← arrayElements g)
    else if isSign "(" ahead then return value ++ (← subquery g)
    else nameOrCall g value
  | _ =>
    match ahead.map Lexeme.token with
    | some (.literal .plain text) =>
      if value.startsWith "_" then
        let _ ← next
        return value ++ " " ++ betweenQuotes '\'' text
      else return value
    | _ => nameOrCall g value

/-- The first operand of an expression; `operand` reads the operand of an operator of a given
strength. -/
def firstOperand (g : Grammar) (operand : Nat → Reader String) : Reader String := do
  match ← maybe (typedLiteral (operand Precedence.postfix_.strength)) with
  | some e => return e
  | none =>
    let l ← next
    let e ← match l.map Lexeme.token with
      | some (.word value none) => wordExpression g operand ((wordOf l).getD value) value
      | some (.word value (some q)) => nameOrCall g (betweenQuotes q value)
      | some (.number digits long) => pure (digits ++ (if long then "L" else ""))
      | some (.literal q value) => pure (q.write value)
      | some (.placeholder text) => pure text
      | some (.symbol "(") => parenthesizedExpression g
      | some (.symbol "[") => arrayElements g
      | some (.symbol "\x7b") => recordFields g
      | some (.symbol "-") => (do return "-" ++ (← operand Precedence.product.strength))
      | some (.symbol "+") => (do return "+" ++ (← operand Precedence.product.strength))
      | some (.symbol ":") => (do return ":" ++ (← identifier))
      | some (.symbol "@") => (do return "@" ++ (← identifier))
      | _ => unexpected "an expression:" l
    if ← word "COLLATE" then return e ++ " COLLATE " ++ (← objectName) else return e

/-- The operators that compare with any or all of several values. -/
def comparisons : List String :=
  [">", "<", ">=", "<=", "=", "<>"]

/-- What follows a binary operator: its right operand, or `ANY` or `ALL` of several. -/
def rightOperand (operand : Nat → Reader String) (strength : Nat) (op : String)
    (place : Location) : Reader String := do
  match ← oneOf ["ANY", "ALL"] with
  | none => operand strength
  | some quantifier =>
    let first := wordOf (← peekAt 1)
    let opensQuery := isSign "(" (← peek) && (first == some "SELECT" || first == some "WITH")
    let inner ←
      if opensQuery then operand strength
      else (do return "(" ++ (← parenthesized (operand strength)) ++ ")")
    if comparisons.contains op then return quantifier ++ inner
    else
      let text := "Expected one of [=, >, <, =>, =<, !=] as comparison operator, found: " ++ op
      throw (.refused text (some place))

/-- What `IS` tests. -/
def isTest (g : Grammar) : Reader String := do
  let forms : List (List String) :=
    [["NULL"], ["NOT", "NULL"], ["TRUE"], ["NOT", "TRUE"], ["FALSE"], ["NOT", "FALSE"],
      ["UNKNOWN"], ["NOT", "UNKNOWN"]]
  let rec tryForms : List (List String) → Reader (Option String)
    | [] => return none
    | form :: rest => do
      if ← words form then return some (String.intercalate " " form) else tryForms rest
  match ← tryForms forms with
  | some form => return " IS " ++ form
  | none =>
    if ← words ["DISTINCT", "FROM"] then return " IS DISTINCT FROM " ++ (← g.expression)
    else if ← words ["NOT", "DISTINCT", "FROM"] then
      return " IS NOT DISTINCT FROM " ++ (← g.expression)
    else expected "[NOT] NULL or TRUE|FALSE or [NOT] DISTINCT FROM after IS"

/-- The escape character of a pattern, if one is given. -/
def escapeClause : Reader String := do
  match ← after "ESCAPE" literalText with
  | some c => return " ESCAPE '" ++ c ++ "'"
  | none => return ""

/-- What stands behind an expression that is tested for membership, range or pattern. -/
def membership (g : Grammar) (operand : Nat → Reader String) : Reader String := do
  let negation := if ← word "NOT" then " NOT " else " "
  let pattern : Reader String := operand Precedence.like.strength
  match ← oneOf ["REGEXP", "RLIKE", "IN", "BETWEEN", "LIKE", "ILIKE"] with
  | some "IN" =>
    let inner ← parenthesized do
      match ← peekWord with
      | some "SELECT" | some "WITH" => g.query
      | _ => return joined (← commaList g.expression)
    return negation ++ "IN (" ++ inner ++ ")"
  | some "BETWEEN" =>
    let low ← operand Precedence.comparison.strength
    need "AND"
    let high ← operand Precedence.comparison.strength
    return negation ++ "BETWEEN " ++ low ++ " AND " ++ high
  | some name =>
    if name = "REGEXP" ∨ name = "RLIKE" then return negation ++ name ++ " " ++ (← pattern)
    else
      let any := if ← word "ANY" then "ANY " else ""
      let p ← pattern
      return negation ++ name ++ " " ++ any ++ p ++ (← escapeClause)
  | none =>
    if ← words ["SIMILAR", "TO"] then
      let p ← pattern
      return negation ++ "SIMILAR TO " ++ p ++ (← escapeClause)
    else expected "IN or BETWEEN after NOT"

/-- The name of an operator in parentheses, behind its keyword. -/
def namedOperator : Reader String := do
  let part : Reader String := do
    match ← next with
    | some l => return l.token.label
    | none => return "EOF"
  needSign "("
  let first ← part
  let more ← many do
    if ← sign "." then return some ("." ++ (← part)) else return none
  needSign ")"
  return "OPERATOR(" ++ first ++ String.join more ++ ")"

/-- Goes on behind a left operand with the operator that comes next, whose strength is given. -/
def continueExpression (g : Grammar) (operand : Nat → Reader String) (strength : Nat)
    (left : String) : Reader String := do
  let binary (op : String) (here : Location) : Reader String := do
    return left ++ " " ++ op ++ " " ++ (← rightOperand operand strength op here)
  match ← peek with
  | none => return left
  | some l =>
    match wordOf (some l) with
    | some "IS" =>
      let _ ← next
      return left ++ (← isTest g)
    | some "AT" =>
      let _ ← next
      needAll ["TIME", "ZONE"]
      return left ++ " AT TIME ZONE " ++ (← operand strength)
    | some "OPERATOR" =>
      let _ ← next
      let op ← namedOperator
      binary op l.location
    | some name =>
      if ["AND", "OR", "XOR", "DIV"].contains name then
        let _ ← next
        binary name l.location
      else return left ++ (← membership g operand)
    | none =>
      let _ ← next
      match l.token with
      | .symbol "::" => return left ++ "::" ++ (← dataType).text
      | .symbol "!" => return left ++ "!"
      | .symbol "[" =>
        let index ← g.expression
        needSign "]"
        return left ++ "[" ++ index ++ "]"
      | .symbol "#" =>
        throw (.refused "No infix parser for token Sharp" (some l.location))
      | .symbol "==" => binary "=" l.location
      | t => binary t.label l.location

/-- Goes on behind a left operand as long as operators bind more tightly than `strength`; at most `n`
of them. -/
def moreOperators (g : Grammar) (operand : Nat → Reader String) (strength : Nat) :
    Nat → String → Reader String
  | 0, left => return left
  | n + 1, left => do
    let ahead := (← nextPrecedence).strength
    if ahead ≤ strength then return left
    else
      let left ← continueExpression g operand ahead left
      moreOperators g operand strength n left

/-- An expression whose operators bind more tightly than the given strength; at most `n` operands
stand inside one another. -/
def operandUpTo (g : Grammar) : (n strength : Nat) → Reader String
  | 0, _ => throw .tooDeep
  | n + 1, strength => do
    let first ← firstOperand g (operandUpTo g n)
    moreOperators g (operandUpTo g n) strength ((← get).length + 1) first

/-- An expression, its parts being read one level deeper. -/
def expression (g : Grammar) : Reader String := do
  operandUpTo g ((← get).length + 1) 0

end Reader
end Sql
end SqlCells
