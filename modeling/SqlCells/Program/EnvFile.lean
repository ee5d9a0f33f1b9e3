import SqlCells.Command.CellText

/-!
# Environment files

A file of assignments `NAME=value`, read before anything else.  A value may be quoted and may go over
several lines; outside strong quotes it may refer to variables as `$NAME` or `${NAME}`.  A variable
that is set already keeps its value.  Reading stops at the first line that is no assignment; what was
assigned before it stays.
-/

namespace SqlCells
namespace EnvFile

/-! ## Lines -/

/-- Where a line stands while its end is looked for. -/
inductive Place where
  | plain
  /-- Behind the first of several blanks. -/
  | blank
  /-- Behind a backslash outside quotes. -/
  | escaped
  | strong
  | strongEscaped
  | weak
  | weakEscaped
  deriving DecidableEq, Repr

/-- A blank within a line. -/
def isInnerBlank (c : Char) : Bool :=
  Text.isBlank c && c != '\n' && c != '\r'

/-- The place behind the character `c` outside quotes. -/
def Place.outside (c : Char) : Place :=
  match c with
  | '\\' => .escaped
  | '"' => .weak
  | '\'' => .strong
  | _ => .plain

/-- The place behind the character `c`. -/
def Place.next : Place → Char → Place
  | .plain, c => if isInnerBlank c then .blank else .outside c
  | .blank, c => .outside c
  | .escaped, _ => .plain
  | .weak, c => if c = '\\' then .weakEscaped else if c = '"' then .plain else .weak
  | .weakEscaped, _ => .weak
  | .strong, c => if c = '\\' then .strongEscaped else if c = '\'' then .plain else .strong
  | .strongEscaped, _ => .strong

/-- Goes over a line: the part before a comment and, when there is no comment, the place at the
end. -/
def scanLine (place : Place) : List Char → List Char × Option Place
  | [] => ([], some place)
  | c :: rest =>
    if place = .blank ∧ c = '#' then ([], none)
    else
      let scanned := scanLine (place.next c) rest
      (c :: scanned.1, scanned.2)

/-- A line without its end. -/
def chop (line : List Char) : List Char :=
  match Text.dropSuffix? ['\n'] line with
  | some inner => (Text.dropSuffix? ['\r'] inner).getD inner
  | none => line

/-- Joins the lines of a file that belong together. `held` was read before and waits for its end at
`place`. A line that is not text, or whose end does not come, is `none`, and is the last. -/
def joinLines (held : List Char) (place : Place) : List (Option (List Char)) → List (Option (List Char))
  | [] => if place = .plain then [] else [none]
  | none :: _ => [none]
  | some line :: rest =>
    if Text.startsWith (Text.trimStart (held ++ line)) ['#'] then joinLines [] .plain rest
    else
      match scanLine place line with
      | (before, none) => some (held ++ before) :: joinLines [] .plain rest
      | (_, some .plain) => some (chop (held ++ line)) :: joinLines [] .plain rest
      | (_, some place) => joinLines (held ++ line) place rest

/-- Cuts bytes behind each line feed. -/
def byteLines : List UInt8 → List (List UInt8)
  | [] => []
  | b :: rest =>
    if b = 10 then [b] :: byteLines rest
    else match byteLines rest with
      | [] => [[b]]
      | line :: lines => (b :: line) :: lines

/-- The characters of a line; `none` when its bytes are not UTF-8. -/
def decodeLine (line : List UInt8) : Option (List Char) :=
  (String.fromUTF8? ⟨line.toArray⟩).map String.toList

/-- The bytes of a file without the mark that some editors put first. -/
def dropMark : List UInt8 → List UInt8
  | 0xEF :: 0xBB :: 0xBF :: rest => rest
  | bytes => bytes

/-- The assignments of a file, as text. -/
def lines (content : List UInt8) : List (Option (List Char)) :=
  joinLines [] .plain ((byteLines (dropMark content)).map decodeLine)

/-! ## Assignments -/

/-- Where a value stands. `inWeak` says whether weak quotes are open. -/
inductive ValuePlace where
  | plain
  | weak
  | strong
  /-- Behind a backslash. -/
  | escaped (inWeak : Bool)
  /-- In a reference without braces. -/
  | name (inWeak : Bool) (name : List Char)
  /-- In a reference with braces. -/
  | braced (inWeak : Bool) (name : List Char)
  /-- Behind the value, where only a comment may follow. -/
  | ended
  deriving DecidableEq, Repr

/-- The place behind a reference or an escaped character. -/
def ValuePlace.back (inWeak : Bool) : ValuePlace :=
  if inWeak then .weak else .plain

/-- The value of a variable; empty when it is not set. -/
def valueOf (env : Command.Environment) (name : List Char) : List Char :=
  ((env.lookup (String.ofList name)).getD "").toList

/-- What one character of a value adds to it, and the place behind it. Nothing, when the character
may not stand there. -/
def readChar (env : Command.Environment) : ValuePlace → Char → Option (List Char × ValuePlace)
  | .ended, c => if c = ' ' ∨ c = '\t' then some ([], .ended) else none
  | .escaped inWeak, c =>
    if c = 'n' then some (['\n'], .back inWeak)
    else if "\\'\"$ ".toList.contains c then some ([c], .back inWeak)
    else none
  | .strong, c => some (if c = '\'' then ([], .plain) else ([c], .strong))
  | .name inWeak name, c =>
    some <|
      if Text.isLetterOrNumber c then ([], .name inWeak (name ++ [c]))
      else if c = '\x7b' ∧ name.isEmpty then ([], .braced inWeak [])
      else if c = '$' then (valueOf env name, .name inWeak [])
      else (valueOf env name ++ [c], .back inWeak)
  | .braced inWeak name, c =>
    some (if c = '\x7d' then (valueOf env name, .back inWeak) else ([], .braced inWeak (name ++ [c])))
  | .weak, c =>
    some <|
      if c = '$' then ([], .name true [])
      else if c = '"' then ([], .plain)
      else if c = '\\' then ([], .escaped true)
      else ([c], .weak)
  | .plain, c =>
    some <|
      if c = '$' then ([], .name false [])
      else if c = '\'' then ([], .strong)
      else if c = '"' then ([], .weak)
      else if c = '\\' then ([], .escaped false)
      else if c = ' ' ∨ c = '\t' then ([], .ended)
      else ([c], .plain)

/-- What the end of the line adds to a value; nothing, when quotes or braces are open. -/
def readEnd (env : Command.Environment) : ValuePlace → Option (List Char)
  | .plain | .ended | .escaped false => some []
  | .name false name => some (valueOf env name)
  | _ => none

/-- Reads a value from a place on. -/
def readValue (env : Command.Environment) (place : ValuePlace) : List Char → Option (List Char)
  | [] => readEnd env place
  | c :: rest =>
    if place = .ended ∧ c = '#' then some []
    else
      match readChar env place c with
      | none => none
      | some (added, next) => (readValue env next rest).map (added ++ ·)

/-- A name at the start of a text, and what follows it and blanks. -/
def readName : List Char → Option (List Char × List Char)
  | [] => none
  | c :: rest =>
    if Text.isNameStart c then
      let isPart (c : Char) : Bool := Text.isNameRest c || c == '.'
      some (c :: rest.takeWhile isPart, Text.trimStart (rest.dropWhile isPart))
    else none

/-- What a line says. -/
inductive Line where
  | blank
  | assignment (name value : String)
  | malformed
  deriving DecidableEq, Repr

/-- A name and what follows the equals sign behind it. The word `export` may go before a name, and is
a name itself when the equals sign follows. -/
def readTarget (text : List Char) : Option (List Char × List Char) :=
  match readName text with
  | some (name, '=' :: rest) => some (name, rest)
  | some (name, rest) =>
    if name = "export".toList then
      match readName rest with
      | some (name, '=' :: rest) => some (name, rest)
      | _ => none
    else none
  | none => none

/-- Reads a line; references take their values from `env`. -/
def readLine (env : Command.Environment) (line : List Char) : Line :=
  let text := Text.trim line
  if text.isEmpty || text.head? == some '#' then .blank
  else
    match readTarget text with
    | none => .malformed
    | some (name, rest) =>
      let rest := Text.trimStart rest
      if rest.isEmpty || rest.head? == some '#' then .assignment (String.ofList name) ""
      else
        match readValue env .plain rest with
        | some value => .assignment (String.ofList name) (String.ofList value)
        | none => .malformed

/-- The environment after the assignments of lines. -/
def assign (env : Command.Environment) : List (Option (List Char)) → Command.Environment
  | [] | none :: _ => env
  | some line :: rest =>
    match readLine env line with
    | .malformed => env
    | .blank => assign env rest
    | .assignment name value =>
      if (env.lookup name).isSome then assign env rest
      else assign (env ++ [(name, value)]) rest

/-- The environment after the assignments of a file. -/
def load (env : Command.Environment) (content : List UInt8) : Command.Environment :=
  assign env (lines content)

end EnvFile
end SqlCells
