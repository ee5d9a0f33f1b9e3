import SqlCells.Text.Words

/-!
# The words of a header line

A header is cut at blanks.  A quoted section, in single or double quotes, is kept whole with its
quotes; inside it a backslash takes the next character with it.  A section left open runs to the end
of the line.
-/

namespace SqlCells
namespace Command

/-- Where a scan stands: outside quotes, inside a section opened by `quote`, or right after a
backslash in such a section. -/
inductive Place where
  | outside
  | inside (quote : Char)
  | escaped (quote : Char)
  deriving DecidableEq, Repr

/-- The characters that open a quoted section. -/
def isQuote (c : Char) : Bool :=
  c == '\'' || c == '"'

/-- Where the scan stands after one more character. -/
def Place.next : Place → Char → Place
  | .outside, c => if isQuote c then .inside c else .outside
  | .inside q, c => if c = '\\' then .escaped q else if c = q then .outside else .inside q
  | .escaped q, _ => .inside q

/-- Whether a character separates words at this place. -/
def Place.separates (p : Place) (c : Char) : Bool :=
  p == .outside && Text.isBlank c

/-- A word, unless it is empty. -/
def wordOf (word : List Char) : List (List Char) :=
  if word.isEmpty then [] else [word]

/-- The words of the rest of a line, `word` being what has been read of the current one. -/
def wordsFrom (place : Place) (word : List Char) : List Char → List (List Char)
  | [] => wordOf word
  | c :: rest =>
    if place.separates c then wordOf word ++ wordsFrom .outside [] rest
    else wordsFrom (place.next c) (word ++ [c]) rest

/-- The words of a line, quotes included. -/
def splitWords (line : List Char) : List (List Char) :=
  wordsFrom .outside [] line

/-- Whether a word goes on in the header: it does not start with two dashes, or what precedes its
first equals sign is a flag. -/
def keepsWord (known : List Char → Bool) (word : List Char) : Bool :=
  if Text.startsWith word ['-', '-'] then
    match Text.splitOnce ['='] word with
    | some (name, _) => known name
    | none => known word
  else true

/-- The line without its comment: everything from the first word on that starts with two dashes and
is not a flag is dropped, and the words before it are joined by single spaces. -/
def stripComment (known : List Char → Bool) (line : List Char) : List Char :=
  Text.joinWith [' '] ((splitWords line).takeWhile (keepsWord known))

/-- What a word of a header stands for. -/
inductive Item where
  /-- A plain word. -/
  | word (text : List Char)
  /-- A flag `--name` or `--name=value`. -/
  | long (name : List Char) (value : Option (List Char))
  /-- A flag `-letter` or `-letterValue`. -/
  | short (letter : Char) (value : Option (List Char))
  deriving DecidableEq, Repr

/-- The text of a plain word. -/
def Item.asWord : Item → Option (List Char)
  | .word text => some text
  | _ => none

/-- Whether this is the long flag of the given name. -/
def Item.isLong (name : List Char) : Item → Bool
  | .long n _ => n == name
  | _ => false

/-- Tells a flag from a plain word. A long flag starts with a letter after its dashes; a short flag
is one ASCII letter. -/
def classify (word : List Char) : Item :=
  match word with
  | '-' :: '-' :: rest =>
    match rest with
    | c :: _ =>
      if Text.isLetter c then
        match Text.splitOnce ['='] rest with
        | some (name, value) => .long name (some value)
        | none => .long rest none
      else .word word
    | [] => .word word
  | '-' :: c :: attached =>
    if c.isAlpha then .short c (if attached.isEmpty then none else some attached) else .word word
  | _ => .word word

end Command
end SqlCells
