import SqlCells.Sql.Statement

/-!
# Reading lexemes

The ground of the grammar of SQL.  A reader takes lexemes from the front of a list that holds no
blanks or comments, and either gives a result and the rest or says what it expected and what it
found.
-/

namespace SqlCells
namespace Sql

/-- Why a text is no SQL. -/
inductive SyntaxFlaw where
  /-- The text cannot be read as tokens. -/
  | lexical (failure : LexFailure)
  /-- Something else was expected; nothing is found at the end of the text. -/
  | expected (what : String) (found : Option (Token × Location))
  /-- A form that is read but refused. -/
  | refused (text : String) (place : Option Location)
  /-- Expressions and queries stand too deep inside one another. -/
  | tooDeep
  deriving DecidableEq, Repr

/-- The place of a message; nothing at the end of the text. -/
def placeText : Option Location → String
  | none => ""
  | some place => place.text

/-- The wording of a flaw. -/
def SyntaxFlaw.message : SyntaxFlaw → String
  | .lexical f => "sql parser error: " ++ f.message
  | .expected what none => "sql parser error: Expected: " ++ what ++ ", found: EOF"
  | .expected what (some (token, place)) =>
    "sql parser error: Expected: " ++ what ++ ", found: " ++ token.label ++ place.text
  | .refused text place => "sql parser error: " ++ text ++ placeText place
  | .tooDeep => "sql parser error: recursion limit exceeded"

/-- A reader of lexemes. -/
abbrev Reader := StateT (List Lexeme) (Except SyntaxFlaw)

namespace Reader

/-- The next lexeme, which is not taken. -/
def peek : Reader (Option Lexeme) :=
  return (← get).head?

/-- The lexeme `n` places behind the next, which is not taken. -/
def peekAt (n : Nat) : Reader (Option Lexeme) :=
  return (← get)[n]?

/-- Takes the next lexeme. -/
def next : Reader (Option Lexeme) :=
  modifyGet fun
    | [] => (none, [])
    | l :: rest => (some l, rest)

/-- Where the next lexeme stands. -/
def place : Reader (Option Location) :=
  return (← peek).map Lexeme.location

/-- Refuses a lexeme in favour of what was expected. -/
def unexpected {α : Type} (what : String) (found : Option Lexeme) : Reader α :=
  throw (.expected what (found.map fun l => (l.token, l.location)))

/-- Refuses the next lexeme. -/
def expected {α : Type} (what : String) : Reader α := do
  unexpected what (← peek)

/-- The result of a reader, or nothing, and then no lexeme is taken. -/
def maybe {α : Type} (p : Reader α) : Reader (Option α) := fun ls =>
  match p ls with
  | .ok (a, rest) => .ok (some a, rest)
  | .error _ => .ok (none, ls)

/-- The keyword that a lexeme can be taken for: a bare word in upper case. -/
def wordOf (l : Option Lexeme) : Option String :=
  (l.bind fun l => l.token.bareWord?).map String.ofList

/-- The next keyword, which is not taken. -/
def peekWord : Reader (Option String) :=
  return wordOf (← peek)

/-- Takes a keyword if it comes next. -/
def word (name : String) : Reader Bool := do
  if (← peekWord) == some name then
    let _ ← next
    return true
  else return false

/-- Takes keywords if all of them come next. -/
def words (names : List String) : Reader Bool := do
  let here := (← get).take names.length
  if here.map (fun l => wordOf (some l)) == names.map some then
    modify (·.drop names.length)
    return true
  else return false

/-- Takes the next keyword if it is one of the given. -/
def oneOf (names : List String) : Reader (Option String) := do
  match ← peekWord with
  | some w =>
    if names.contains w then
      let _ ← next
      return some w
    else return none
  | none => return none

/-- Whether a lexeme is the given sign. -/
def isSign (s : String) (l : Option Lexeme) : Bool :=
  (l.map Lexeme.token) == some (.symbol s)

/-- Takes a sign if it comes next. -/
def sign (s : String) : Reader Bool := do
  if isSign s (← peek) then
    let _ ← next
    return true
  else return false

/-- Takes a sign that has to come next. -/
def needSign (s : String) : Reader Unit := do
  unless ← sign s do expected s

/-- Takes a keyword that has to come next. -/
def need (name : String) : Reader Unit := do
  unless ← word name do expected name

/-- Takes keywords that have to come next. -/
def needAll : List String → Reader Unit
  | [] => pure ()
  | name :: rest => do
    need name
    needAll rest

/-- Takes one of the given keywords, which has to come next. -/
def needOneOf (names : List String) : Reader String := do
  match ← oneOf names with
  | some w => return w
  | none => expected ("one of " ++ String.intercalate " or " names)

/-- What a reader yields after a keyword; nothing without it. -/
def after {α : Type} (name : String) (p : Reader α) : Reader (Option α) := do
  if ← word name then return some (← p) else return none

/-- What a reader yields between parentheses. -/
def parenthesized {α : Type} (p : Reader α) : Reader α := do
  needSign "("
  let a ← p
  needSign ")"
  return a

/-- Items between commas, at most `n` of them. -/
def commaListUpTo {α : Type} (item : Reader α) : Nat → Reader (List α)
  | 0 => return []
  | n + 1 => do
    let a ← item
    if ← sign "," then return a :: (← commaListUpTo item n) else return [a]

/-- One item or more between commas. -/
def commaList {α : Type} (item : Reader α) : Reader (List α) := do
  commaListUpTo item ((← get).length + 1)

/-- Repeats a reader, at most `n` times, until it yields nothing. -/
def repeatUpTo {α : Type} (item : Reader (Option α)) : Nat → Reader (List α)
  | 0 => return []
  | n + 1 => do
    match ← item with
    | some a => return a :: (← repeatUpTo item n)
    | none => return []

/-- Repeats a reader until it yields nothing. -/
def many {α : Type} (item : Reader (Option α)) : Reader (List α) := do
  repeatUpTo item ((← get).length + 1)

end Reader

/-- A statement that has been read. -/
structure Normal where
  /-- The normal form; kinds of statement that have none stay as they are written. -/
  text : Option String
  /-- Whether the statement asks for an explanation of another or of a table. -/
  explains : Bool := false
  deriving DecidableEq, Repr

/-- The mutually nested parts of the grammar. Each reader counts as one level of depth. -/
structure Grammar where
  expression : Reader String
  query : Reader String
  statement : Reader Normal

/-- No depth is left. -/
def Grammar.exhausted : Grammar where
  expression := throw .tooDeep
  query := throw .tooDeep
  statement := throw .tooDeep

end Sql
end SqlCells
