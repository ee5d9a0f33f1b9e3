import SqlCells.Text.Words

/-!
# Tokens of SQL

What the lexer tells apart, where each token stands, and how a token is named in a message.
-/

namespace SqlCells
namespace Sql

/-- A place in a text: line and column, both from one. Lines end at line feeds. -/
structure Location where
  line : Nat
  column : Nat
  deriving DecidableEq, Repr

/-- The start of a text. -/
def Location.start : Location := ⟨1, 1⟩

/-- The place after one more character. -/
def Location.next (p : Location) (c : Char) : Location :=
  if c = '\n' then ⟨p.line + 1, 1⟩ else ⟨p.line, p.column + 1⟩

/-- The place after some more characters. -/
def Location.after (p : Location) (s : List Char) : Location :=
  s.foldl Location.next p

/-- How a place is named at the end of a message. -/
def Location.text (p : Location) : String :=
  s!" at Line: {p.line}, Column: {p.column}"

/-- The kinds of quoted literal, by how they are written. -/
inductive Quoting where
  /-- In single quotes. -/
  | plain
  /-- With the letter `N`. -/
  | national
  /-- With the letter `E`: backslash escapes are undone. -/
  | escaped
  /-- With `U&`: code points are written after backslashes. -/
  | unicode
  /-- With the letter `X`, or a number that starts with `0x`. -/
  | hexadecimal
  /-- With the letter `B`. -/
  | byte (quote : Char)
  /-- With the letter `R`. -/
  | raw (quote : Char)
  /-- With the letter `R` and three quotes at each end. -/
  | rawTriple (quote : Char)
  /-- Between dollar signs, with a tag that may be empty. -/
  | dollar (tag : String)
  deriving DecidableEq, Repr

/-- A token of SQL. -/
inductive Token where
  /-- A word: an identifier or keyword, or a quoted identifier with its quote character. -/
  | word (value : String) (quote : Option Char)
  /-- A number, with the suffix `L` or without. -/
  | number (digits : String) (long : Bool)
  | literal (quoting : Quoting) (value : String)
  /-- A parameter: a question mark or a dollar sign, and what names it. -/
  | placeholder (text : String)
  | blank
  | lineComment
  | blockComment
  | semicolon
  /-- Any other sign or operator. -/
  | symbol (text : String)
  deriving DecidableEq, Repr

/-- Whether a token only separates others. -/
def Token.isTrivia : Token → Bool
  | .blank | .lineComment | .blockComment => true
  | _ => false

/-- How a quoted literal is named in a message. -/
def Quoting.label (q : Quoting) (value : String) : String :=
  match q with
  | .plain => "'" ++ value ++ "'"
  | .national => "N'" ++ value ++ "'"
  | .escaped => "E'" ++ value ++ "'"
  | .unicode => "U&'" ++ value ++ "'"
  | .hexadecimal => "X'" ++ value ++ "'"
  | .byte c => "B" ++ c.toString ++ value ++ c.toString
  | .raw c => "R" ++ c.toString ++ value ++ c.toString
  | .rawTriple c =>
    let three := String.ofList [c, c, c]
    "R" ++ three ++ value ++ three
  | .dollar tag => "$" ++ tag ++ "$" ++ value ++ "$" ++ tag ++ "$"

/-- How a token is named in a message. -/
def Token.label : Token → String
  | .word value none => value
  | .word value (some q) => q.toString ++ value ++ q.toString
  | .number digits long => digits ++ (if long then "L" else "")
  | .literal q value => q.label value
  | .placeholder text => text
  | .blank => " "
  | .lineComment => "--"
  | .blockComment => "/**/"
  | .semicolon => ";"
  | .symbol text => text

/-- A token with the characters it was read from and the place where they start. -/
structure Lexeme where
  token : Token
  text : List Char
  location : Location
  deriving DecidableEq, Repr

end Sql
end SqlCells
