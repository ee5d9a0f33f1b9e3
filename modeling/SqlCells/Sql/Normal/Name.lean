import SqlCells.Sql.Normal.Keyword
import SqlCells.Sql.Normal.Reader

/-!
# Names and literals

Identifiers, names of objects, aliases and literals, each read and written in normal form: a quoted
text keeps its quotes, and a bare name keeps its case.
-/

namespace SqlCells
namespace Sql

/-- The inside of a quoted text: a quote is written twice, but a pair of quotes stays a pair, and a
quote after a backslash stays single. -/
def writeQuotes (quote : Char) (afterBackslash : Bool) : List Char → List Char
  | [] => []
  | [c] =>
    if c = quote then (if afterBackslash then [c] else [c, c]) else [c]
  | c :: d :: rest =>
    if c = quote then
      if afterBackslash then c :: writeQuotes quote true (d :: rest)
      else if d = quote then c :: c :: writeQuotes quote false rest
      else c :: c :: writeQuotes quote false (d :: rest)
    else c :: writeQuotes quote (c == '\\') (d :: rest)

/-- A text between quotes. -/
def betweenQuotes (quote : Char) (s : String) : String :=
  String.ofList (quote :: writeQuotes quote false s.toList ++ [quote])

/-- A hexadecimal number in upper case with at least `width` digits. -/
def paddedHex (width n : Nat) : List Char :=
  let digits := Text.asciiUpper (Nat.toDigits 16 n)
  List.replicate (width - digits.length) '0' ++ digits

/-- A character of a literal whose escapes start with a backslash. -/
def writeEscaped : Char → List Char
  | '\'' => ['\\', '\'']
  | '\\' => ['\\', '\\']
  | '\n' => ['\\', 'n']
  | '\t' => ['\\', 't']
  | '\r' => ['\\', 'r']
  | c => [c]

/-- A character of a literal whose code points are written after backslashes. -/
def writeCodePoint : Char → List Char
  | '\'' => ['\'', '\'']
  | '\\' => ['\\', '\\']
  | c =>
    if c.toNat < 0x80 then [c]
    else if c.toNat ≤ 0xFFFF then '\\' :: paddedHex 4 c.toNat
    else '\\' :: '+' :: paddedHex 6 c.toNat

/-- A quoted literal in normal form. -/
def Quoting.write (q : Quoting) (value : String) : String :=
  match q with
  | .plain => betweenQuotes '\'' value
  | .escaped => "E'" ++ String.ofList (value.toList.flatMap writeEscaped) ++ "'"
  | .unicode => "U&'" ++ String.ofList (value.toList.flatMap writeCodePoint) ++ "'"
  | _ => q.label value

/-- The name that a token is: a word, or a text in single quotes. -/
def Token.name? : Token → Option String
  | .word value none => some value
  | .word value (some quote) => some (betweenQuotes quote value)
  | .literal .plain value => some (betweenQuotes '\'' value)
  | _ => none

namespace Reader

/-- An identifier. -/
def identifier : Reader String := do
  let l ← next
  match l.bind fun l => l.token.name? with
  | some name => return name
  | none => unexpected "identifier" l

/-- What follows a name: more parts after points, at most `n` of them. -/
def morePartsUpTo : Nat → Reader String
  | 0 => return ""
  | n + 1 => do
    if ← sign "." then
      let part ← identifier
      return "." ++ part ++ (← morePartsUpTo n)
    else return ""

/-- The name of an object, with its qualifiers. -/
def objectName : Reader String := do
  let first ← identifier
  return first ++ (← morePartsUpTo ((← get).length + 1))

/-- Names between commas. -/
def joined (names : List String) : String :=
  String.intercalate ", " names

/-- Names between commas in parentheses. -/
def identifierList : Reader String := do
  return "(" ++ joined (← parenthesized (commaList identifier)) ++ ")"

/-- A list of columns in parentheses, which has to come next. -/
def columns : Reader String := do
  if isSign "(" (← peek) then identifierList
  else expected "a list of columns in parentheses"

/-- A list of columns in parentheses if it comes next; otherwise empty. -/
def columns? : Reader String := do
  if isSign "(" (← peek) then identifierList else return ""

/-- An alias, with `AS` or without. Reserved keywords are aliases only after `AS`. -/
def aliasName (reserved : List String) : Reader (Option String) := do
  let afterAs ← word "AS"
  let l ← peek
  let free := match wordOf l with
    | some w => afterAs || !reserved.contains w
    | none => true
  match l.bind fun l => l.token.name? with
  | some name =>
    if free then
      let _ ← next
      return some name
    else return none
  | none => if afterAs then unexpected "an identifier after AS" l else return none

/-- The alias of a table, with the names of its columns. -/
def tableAlias : Reader (Option String) := do
  match ← aliasName tableAliasReserved with
  | none => return none
  | some name =>
    let cols ← columns?
    return some (if cols.isEmpty then name else name ++ " " ++ cols)

/-- Whether a lexeme is a word without a meaning of its own. -/
def isPlainWord (l : Lexeme) : Bool :=
  match l.token with
  | .word _ (some _) => true
  | .word _ none => !keywords.contains ((wordOf (some l)).getD "")
  | _ => false

/-- The value of a text literal. A word without a meaning of its own may stand for one. -/
def literalText : Reader String := do
  let l ← next
  match l with
  | none => unexpected "literal string" l
  | some lexeme =>
    match lexeme.token with
    | .literal .plain value | .literal .escaped value | .literal .unicode value => return value
    | .word value _ =>
      if isPlainWord lexeme then return value else unexpected "literal string" l
    | _ => unexpected "literal string" l

/-- An unsigned integer. -/
def wholeNumber : Reader String := do
  let l ← next
  match l.map Lexeme.token with
  | some (.number digits _) =>
    if digits.toList.all Char.isDigit then return toString (digits.toNat?.getD 0)
    else
      let place := l.map Lexeme.location
      throw (.refused ("Could not parse '" ++ digits ++ "' as u64: invalid digit found in string")
        place)
  | _ => unexpected "literal int" l

/-- A value: a literal, a number, a parameter, a truth value or null. -/
def concreteValue : Reader String := do
  let l ← next
  match l.map Lexeme.token with
  | some (.number digits long) => return digits ++ (if long then "L" else "")
  | some (.literal q value) => return q.write value
  | some (.placeholder text) => return text
  | some (.symbol ":") => return ":" ++ (← identifier)
  | some (.symbol "@") => return "@" ++ (← identifier)
  | some (.word value (some '"')) => return betweenQuotes '"' value
  | some (.word _ (some _)) => unexpected "A value?" l
  | some (.word _ none) =>
    match wordOf l with
    | some "TRUE" => return "true"
    | some "FALSE" => return "false"
    | some "NULL" => return "NULL"
    | _ => unexpected "a concrete value" l
  | _ => unexpected "a value" l

end Reader
end Sql
end SqlCells
