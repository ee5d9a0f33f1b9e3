import SqlCells.Toml.Scalar

/-!
# Reading TOML

A file is read line by line into headers and entries, which then come together into a table.  Arrays
and tables in braces may be nested up to `maxDepth`.  A text that is no TOML has no value; the flaw is
not told apart further.
-/

namespace SqlCells
namespace Toml

/-- A reader of characters: it yields a result and the rest of the text, or fails. -/
abbrev Scan := StateT (List Char) Option

namespace Scan

/-- The next character, which is not taken. -/
def peek : Scan (Option Char) :=
  return (← get).head?

/-- Takes a character if it comes next. -/
def char (c : Char) : Scan Bool := do
  match ← get with
  | d :: rest =>
    if c = d then
      set rest
      return true
    else return false
  | [] => return false

/-- Takes a character that has to come next. -/
def need (c : Char) : Scan Unit := do
  unless ← char c do failure

/-- Takes the longest run of characters that satisfy `p`. -/
def takeWhile (p : Char → Bool) : Scan (List Char) :=
  modifyGet fun s => (s.takeWhile p, s.dropWhile p)

/-- Passes over blanks within a line. -/
def blanks : Scan Unit := do
  let _ ← takeWhile fun c => c == ' ' || c == '\t'

/-- A control character that may not stand in a text or a comment. -/
def isForbidden (c : Char) : Bool :=
  (c.toNat < 0x20 && c != '\t') || c.toNat == 0x7F

/-- Passes over a comment, up to the end of its line. -/
def comment : Scan Unit := do
  if ← char '#' then
    let text ← takeWhile fun c => c != '\n' && c != '\r'
    if text.any isForbidden then failure

/-- Takes the end of a line if it comes next. -/
def newline : Scan Bool := do
  match ← get with
  | '\n' :: rest =>
    set rest
    return true
  | '\r' :: '\n' :: rest =>
    set rest
    return true
  | _ => return false

/-- Passes over blanks, comments and ends of lines; at most `n` lines. -/
def blankLinesUpTo : Nat → Scan Unit
  | 0 => return
  | n + 1 => do
    blanks
    comment
    if ← newline then blankLinesUpTo n

/-- Passes over blanks, comments and ends of lines. -/
def blankLines : Scan Unit := do
  blankLinesUpTo ((← get).length + 1)

/-- The character that hexadecimal digits name. -/
def codePoint? (digits : List Char) : Option Char := do
  let ds ← digits.mapM Text.hexValue?
  let n := ds.foldl (fun n d => n * 16 + d) 0
  if n.isValidChar then some (Char.ofNat n) else none

/-- What a backslash and the characters behind it stand for, and the rest of the text. -/
def escape? : List Char → Option (Char × List Char)
  | 'b' :: rest => some (Char.ofNat 8, rest)
  | 't' :: rest => some ('\t', rest)
  | 'n' :: rest => some ('\n', rest)
  | 'f' :: rest => some (Char.ofNat 12, rest)
  | 'r' :: rest => some ('\r', rest)
  | '"' :: rest => some ('"', rest)
  | '\\' :: rest => some ('\\', rest)
  | 'u' :: a :: b :: c :: d :: rest => (codePoint? [a, b, c, d]).map fun x => (x, rest)
  | 'U' :: a :: b :: c :: d :: e :: f :: g :: h :: rest =>
    (codePoint? [a, b, c, d, e, f, g, h]).map fun x => (x, rest)
  | _ => none

/-- A text behind its opening quote, in which backslashes escape; at most `n` characters. -/
def basicUpTo : Nat → List Char → Option (List Char × List Char)
  | 0, _ | _, [] => none
  | _, '"' :: rest => some ([], rest)
  | n + 1, '\\' :: rest => do
    let (c, rest) ← escape? rest
    let (body, rest) ← basicUpTo n rest
    return (c :: body, rest)
  | n + 1, c :: rest =>
    if isForbidden c then none
    else (basicUpTo n rest).map fun (body, rest) => (c :: body, rest)

/-- A text behind its opening quote, in which nothing is escaped. -/
def literal? : List Char → Option (List Char × List Char)
  | [] => none
  | '\'' :: rest => some ([], rest)
  | c :: rest =>
    if isForbidden c then none
    else (literal? rest).map fun (body, rest) => (c :: body, rest)

/-- Up to two quotes that belong to a text before its three closing quotes. -/
def closingQuotes (quote : Char) : List Char → List Char × List Char
  | a :: b :: rest =>
    if a = quote then if b = quote then ([a, b], rest) else ([a], b :: rest)
    else ([], a :: b :: rest)
  | [a] => if a = quote then ([a], []) else ([], [a])
  | [] => ([], [])

/-- Blanks and ends of lines behind a backslash that ends its line. -/
def continuation? (s : List Char) : Option (List Char) :=
  let isSpace (c : Char) : Bool := c == ' ' || c == '\t'
  match s.dropWhile isSpace with
  | '\n' :: rest | '\r' :: '\n' :: rest =>
    some (skipLines rest.length rest)
  | _ => none
where
  /-- Passes over blanks and ends of lines; at most `n` characters. -/
  skipLines : Nat → List Char → List Char
    | 0, s => s
    | n + 1, s => match s with
      | ' ' :: rest | '\t' :: rest | '\n' :: rest | '\r' :: '\n' :: rest => skipLines n rest
      | _ => s

/-- A text of several lines behind its opening quotes, `escapes` telling whether backslashes escape;
at most `n` characters. -/
def linesUpTo (quote : Char) (escapes : Bool) : Nat → List Char → Option (List Char × List Char)
  | 0, _ | _, [] => none
  | n + 1, c :: rest =>
    if c = quote ∧ rest.take 2 = [quote, quote] then some (closingQuotes quote (rest.drop 2))
    else if c = '\\' ∧ escapes then
      match continuation? rest with
      | some rest => linesUpTo quote escapes n rest
      | none => do
        let (c, rest) ← escape? rest
        let (body, rest) ← linesUpTo quote escapes n rest
        return (c :: body, rest)
    else if c = '\r' then
      match rest with
      | '\n' :: rest => (linesUpTo quote escapes n rest).map fun (body, rest) => ('\n' :: body, rest)
      | _ => none
    else if isForbidden c && c != '\n' then none
    else (linesUpTo quote escapes n rest).map fun (body, rest) => (c :: body, rest)

/-- The rest of the text without the end of a line at its start. -/
def withoutFirstNewline : List Char → List Char
  | '\n' :: rest => rest
  | '\r' :: '\n' :: rest => rest
  | s => s

/-- A text in quotes on one line, `s` starting with the opening quote. -/
def quoted? : List Char → Option (List Char × List Char)
  | '"' :: rest => basicUpTo (rest.length + 1) rest
  | '\'' :: rest => literal? rest
  | _ => none

/-- A text in quotes, `s` starting with the opening quote. -/
def text? : List Char → Option (List Char × List Char)
  | '"' :: '"' :: '"' :: rest =>
    let rest := withoutFirstNewline rest
    linesUpTo '"' true (rest.length + 1) rest
  | '\'' :: '\'' :: '\'' :: rest =>
    let rest := withoutFirstNewline rest
    linesUpTo '\'' false (rest.length + 1) rest
  | s => quoted? s

/-- A character of a bare key. -/
def isKeyChar (c : Char) : Bool :=
  c.isAlphanum || c == '_' || c == '-'

/-- One part of a key: bare or in quotes. -/
def simpleKey : Scan String := do
  match ← peek with
  | some '"' | some '\'' => do
    let (key, rest) ← liftM (quoted? (← get))
    set rest
    return String.ofList key
  | _ =>
    let key ← takeWhile isKeyChar
    if key.isEmpty then failure
    return String.ofList key

/-- A key of at most `n` more parts. -/
def keyUpTo : Nat → Scan (List String)
  | 0 => failure
  | n + 1 => do
    blanks
    let part ← simpleKey
    blanks
    if ← char '.' then return part :: (← keyUpTo n) else return [part]

/-- How deep arrays, tables in braces and keys may be nested. -/
def maxDepth : Nat := 79

/-- A key and the path in front of it. -/
def key : Scan (List String × String) := do
  let parts ← keyUpTo maxDepth
  return (parts.dropLast, parts.getLast?.getD "")

/-- The items of an array behind its opening bracket; at most `n` of them. -/
def itemsUpTo (item : Scan Toml) : Nat → Scan (List Toml)
  | 0 => failure
  | n + 1 => do
    blankLines
    if ← char ']' then return []
    let v ← item
    blankLines
    if ← char ',' then return v :: (← itemsUpTo item n)
    need ']'
    return [v]

/-- The entries of a table in braces; at most `n` of them. -/
def entriesUpTo (item : Scan Toml) : Nat → Scan (List (List String × String × Toml))
  | 0 => failure
  | n + 1 => do
    let (path, name) ← key
    need '='
    blanks
    let v ← item
    blanks
    if ← char ',' then return (path, name, v) :: (← entriesUpTo item n)
    need '\x7d'
    return [(path, name, v)]

/-- A value in which arrays and tables are nested at most `depth` deep. -/
def valueUpTo : (depth : Nat) → Scan Toml
  | 0 => scalar
  | depth + 1 => do
    match ← peek with
    | some '[' =>
      need '['
      return .array (← itemsUpTo (valueUpTo depth) ((← get).length + 1))
    | some '\x7b' =>
      need '\x7b'
      blanks
      if ← char '\x7d' then return .table []
      liftM (ofEntries? (← entriesUpTo (valueUpTo depth) ((← get).length + 1)))
    | _ => scalar
where
  /-- A value that holds no others. -/
  scalar : Scan Toml := do
    match ← peek with
    | some '"' | some '\'' =>
      let (s, rest) ← liftM (text? (← get))
      set rest
      return .text (String.ofList s)
    | _ =>
      let (run, rest) := takeScalar (← get)
      let v ← liftM (scalar? run)
      set rest
      return v

/-- The path of a header, behind its opening brackets. -/
def headerPath : Scan (List String) := do
  let (path, name) ← key
  need ']'
  return path ++ [name]

/-- A header or an entry, with the end of its line. -/
def line : Scan Line := do
  let l ←
    if ← char '[' then
      if ← char '[' then do
        let path ← headerPath
        need ']'
        pure (Line.element path)
      else (do return Line.header (← headerPath))
    else do
      let (path, name) ← key
      need '='
      blanks
      let v ← valueUpTo maxDepth
      pure (Line.entry path name v)
  blanks
  comment
  if (← peek).isSome then
    unless ← newline do failure
  return l

/-- The lines of a file; at most `n` of them. -/
def linesOfFileUpTo : Nat → Scan (List Line)
  | 0 => failure
  | n + 1 => do
    blankLines
    if (← peek).isNone then return []
    let l ← line
    return l :: (← linesOfFileUpTo n)

end Scan

/-- The table that a text describes. A byte order mark at its start is passed over. -/
def parse? (text : List Char) : Option Toml := do
  let text := match text with
    | c :: rest => if c.toNat = 0xFEFF then rest else text
    | [] => text
  let lines ← (Scan.linesOfFileUpTo (text.length + 1)).run' text
  ofLines? lines

end Toml
end SqlCells
