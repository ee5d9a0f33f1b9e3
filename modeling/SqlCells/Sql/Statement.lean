import SqlCells.Sql.Lexer
import SqlCells.Text.Case

/-!
# Statements of a payload

A payload is cut after each semicolon that stands outside `BEGIN ... END` blocks; blocks are followed
only in statements that start with `CREATE`.  Lexemes tell where they stand by line and column, from
which the places to cut at are counted.  Pieces without anything to run are left out.  The start
of a statement is also inspected as plain text, to see whether it opens a transaction or is a
backslash command.
-/

namespace SqlCells
namespace Sql

/-- The text after the blanks and comments it starts with. Comments are taken as plain text: they do
not nest, and one that is not closed runs to the end. -/
def stripLeadingComments (s : List Char) : List Char :=
  match _h : Text.trimStart s with
  | '-' :: '-' :: after => stripLeadingComments (Text.afterFirst ['\n'] after)
  | '/' :: '*' :: after => stripLeadingComments (Text.afterFirst ['*', '/'] after)
  | rest => rest
termination_by s.length
decreasing_by
  all_goals
    have := Text.length_trimStart_le s
    have := Text.length_afterFirst_le ['\n'] after
    have := Text.length_afterFirst_le ['*', '/'] after
    simp only [_h, List.length_cons] at *
    omega

/-- Whether something is left to run once leading comments and closing semicolons are dropped. -/
def isMeaningful (s : List Char) : Bool :=
  !(Text.trim (Text.dropSemicolons (stripLeadingComments s))).isEmpty

/-- The first word of a statement in lower case, leading comments aside. -/
def firstKeyword? (s : List Char) : Option (List Char) :=
  let pieces := Text.splitAt (fun c => Text.isBlank c || c == ';' || c == '(') (stripLeadingComments s)
  (pieces.find? fun w => !w.isEmpty).map Text.lower

/-- Whether a statement opens a transaction: its first word is `BEGIN`, or `START` and its second is
`TRANSACTION`. -/
def opensTransaction (s : List Char) : Bool :=
  match (firstKeyword? s).map String.ofList with
  | some "begin" => true
  | some "start" =>
    match (Text.words (stripLeadingComments s))[1]? with
    | some word => Text.eqIgnoringAsciiCase (Text.dropSemicolons word) "transaction".toList
    | none => false
  | _ => false

/-- Whether a statement is a backslash command, leading comments aside. -/
def isMetaCommand (s : List Char) : Bool :=
  (stripLeadingComments s).head? == some '\\'

/-- The words that may follow `END` and belong to it. -/
def endSuffixes : List (List Char) :=
  ["IF".toList, "LOOP".toList, "WHILE".toList, "REPEAT".toList, "FOR".toList, "CASE".toList]

/-- How far inside `BEGIN ... END` blocks a scan of one statement is. -/
structure Nesting where
  /-- Whether the statement's first word is `CREATE`; `none` before any word. -/
  create : Option Bool := none
  depth : Nat := 0
  /-- Whether the next word belongs to the `END` just read. -/
  skipNext : Bool := false
  deriving DecidableEq, Repr

/-- The nesting after one more bare word in upper case, `next` being the bare word that follows it
directly. -/
def Nesting.step (b : Nesting) (word : List Char) (next : Option (List Char)) : Nesting :=
  let create := b.create.getD (word == "CREATE".toList)
  let b := { b with create := some create }
  if b.skipNext then { b with skipNext := false }
  else if !create then b
  else if word = "BEGIN".toList then { b with depth := b.depth + 1 }
  else if b.depth = 0 then b
  else if word = "END".toList then
    let joined := match next with
      | some n => endSuffixes.contains n
      | none => false
    let staysOpen := joined && next != some "CASE".toList
    { b with depth := if staysOpen then b.depth else b.depth - 1, skipNext := joined }
  else if word = "CASE".toList then { b with depth := b.depth + 1 }
  else b

/-- A bare word in upper case. -/
def Token.bareWord? : Token → Option (List Char)
  | .word value none => some (Text.upper value.toList)
  | _ => none

/-- The bare word that the first token other than blanks and comments is. -/
def nextBareWord? (ls : List Lexeme) : Option (List Char) :=
  match ls.find? fun l => !l.token.isTrivia with
  | some l => l.token.bareWord?
  | none => none

/-- The nesting after one more lexeme, `rest` being what follows it. -/
def Nesting.after (b : Nesting) (l : Lexeme) (rest : List Lexeme) : Nesting :=
  match l.token.bareWord? with
  | some word => b.step word (nextBareWord? rest)
  | none => b

/-- The places in a text where its lines start. -/
def lineStarts (s : List Char) : List Nat :=
  0 :: (s.zipIdx.filter fun (c, _) => c == '\n').map fun (_, i) => i + 1

/-- The number of characters in front of a location, from the places where lines start. -/
def charIndex (starts : List Nat) (p : Location) : Nat :=
  starts.getD (p.line - 1) 0 + (p.column - 1)

/-- The characters of a text from one place up to another. -/
def slice (s : List Char) (start stop : Nat) : List Char :=
  (s.take stop).drop start

/-- Cuts a payload behind each semicolon outside blocks, by the locations of its lexemes; `start` is
where the piece at hand starts. The last piece ends with the payload. -/
def piecesFrom (payload : List Char) (start : Nat) (b : Nesting) : List Lexeme → List (List Char)
  | [] => if start < payload.length then [slice payload start payload.length] else []
  | l :: rest =>
    if l.token = .semicolon ∧ b.depth = 0 then
      let stop := min (charIndex (lineStarts payload) l.location + 1) payload.length
      slice payload start stop :: piecesFrom payload stop {} rest
    else piecesFrom payload start (b.after l rest) rest

/-- The trimmed pieces that have something to run. -/
def meaningful (pieces : List (List Char)) : List (List Char) :=
  (pieces.map Text.trim).filter isMeaningful

/-- The statements of a payload, each with its semicolon. A payload that cannot be read as tokens is
one statement. -/
def splitStatements (payload : List Char) : List (List Char) :=
  match lex payload with
  | .ok lexemes => meaningful (piecesFrom payload 0 {} lexemes)
  | .error _ => meaningful [payload]

end Sql
end SqlCells
