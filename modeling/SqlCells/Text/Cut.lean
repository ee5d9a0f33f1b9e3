/-!
# Cutting a text into pieces

A text is read from the left.  At each place a rule says what stands there and how many further
characters belong to it; the piece is cut off and reading goes on behind it.  Every piece has at
least one character, so the cut always ends, and no character is lost or moved.
-/

namespace SqlCells
namespace Text

/-- A piece of a text: what it was read as, and the characters it was read from. -/
structure Piece (α : Type) where
  kind : α
  text : List Char
  deriving Repr

/-- Cuts a text into pieces. For the text from the character `c` on, followed by `rest`,
`rule c rest` gives the kind of the piece and how many characters of `rest` belong to it. -/
def cut {α : Type} (rule : Char → List Char → α × Nat) : List Char → List (Piece α)
  | [] => []
  | c :: rest =>
    let read := rule c rest
    ⟨read.1, c :: rest.take read.2⟩ :: cut rule (rest.drop read.2)
termination_by s => s.length
decreasing_by simp only [List.length_cons, List.length_drop]; omega

/-- A reference by name inside a text, or an ordinary character. -/
inductive Mention where
  | plain
  | named (name : List Char)
  deriving DecidableEq, Repr

/-- Replaces each reference by the text that `value` gives for its name and its spelling; all other
characters are kept. -/
def replaceMentions (find : Char → List Char → Mention × Nat)
    (value : (name spelling : List Char) → List Char) (s : List Char) : List Char :=
  (cut find s).flatMap fun p =>
    match p.kind with
    | .plain => p.text
    | .named name => value name p.text

/-- The first character of an ASCII identifier. -/
def isNameStart (c : Char) : Bool :=
  c.isAlpha || c == '_'

/-- A further character of an ASCII identifier. -/
def isNameRest (c : Char) : Bool :=
  c.isAlphanum || c == '_'

/-- The longest ASCII identifier at the start of a text; empty when there is none. -/
def takeName : List Char → List Char
  | [] => []
  | c :: rest => if isNameStart c then c :: rest.takeWhile isNameRest else []

end Text
end SqlCells
