import SqlCells.Sql.Token
import SqlCells.Text.CharClass

/-!
# Reading SQL as tokens

A lexer for a broad, dialect-neutral SQL.  For the text from a character `c` on, `scan c rest` gives
the token that starts there and how many characters of `rest` belong to it.  So the lexemes of a
text, put together, are the text.
-/

namespace SqlCells
namespace Sql

/-- Why a text cannot be read as tokens. -/
inductive LexFlaw where
  | unterminatedString
  | unterminatedIdentifier (quote : Char)
  | badEscapedString
  | unicodeEscapeCut
  | unicodeDigit (c : Char)
  | unicodeCharacter (code : Nat)
  | unterminatedUnicode
  | unterminatedComment
  | unterminatedDollar
  | unterminatedTag
  deriving DecidableEq, Repr

/-- The wording of a flaw. -/
def LexFlaw.message : LexFlaw → String
  | .unterminatedString => "Unterminated string literal"
  | .unterminatedIdentifier q => "Expected close delimiter '" ++ q.toString ++ "' before EOF."
  | .badEscapedString => "Unterminated encoded string literal"
  | .unicodeEscapeCut => "Unexpected EOF while parsing hex digit in escaped unicode string."
  | .unicodeDigit c => "Invalid hex digit in escaped unicode string: " ++ c.toString
  | .unicodeCharacter code => "Invalid unicode character: " ++ String.ofList (Nat.toDigits 16 code)
  | .unterminatedUnicode => "Unterminated unicode encoded string literal"
  | .unterminatedComment => "Unexpected EOF while in a multi-line comment"
  | .unterminatedDollar => "Unterminated dollar-quoted string"
  | .unterminatedTag => "Unterminated dollar-quoted, expected $"

/-- A flaw and how many characters after the start of the token it is reported. -/
structure ScanFault where
  flaw : LexFlaw
  ahead : Nat
  deriving DecidableEq, Repr

/-- A character that may start a word. -/
def isWordStart (c : Char) : Bool :=
  Text.isLetter c || c == '_' || c == '#' || c == '@'

/-- A character that may continue a word. -/
def isWordPart (c : Char) : Bool :=
  Text.isLetter c || c.isDigit || c == '@' || c == '$' || c == '#' || c == '_'

/-- The characters of `s` that continue a word. -/
def wordTail (s : List Char) : List Char :=
  s.takeWhile isWordPart

/-- The value up to the closing quote and the number of characters with it; a doubled quote stands
for one. -/
def quotedBody (quote : Char) : List Char → Option (List Char × Nat)
  | [] => none
  | c :: rest =>
    if c = quote then
      match rest with
      | [] => some ([], 1)
      | d :: rest =>
        if d = quote then (quotedBody quote rest).map fun (v, n) => (quote :: v, n + 2)
        else some ([], 1)
    else (quotedBody quote rest).map fun (v, n) => (c :: v, n + 1)

/-- The value up to three closing quotes and the number of characters with them. -/
def tripleBody (quote : Char) : List Char → Option (List Char × Nat)
  | [] => none
  | c :: rest =>
    if c = quote ∧ rest.take 2 = [quote, quote] then some ([], 3)
    else (tripleBody quote rest).map fun (v, n) => (c :: v, n + 1)

/-- A character with the given code, unless there is none or it is NUL. -/
def nonZeroChar? (code : Nat) : Option Char :=
  if code.isValidChar ∧ code ≠ 0 then some (Char.ofNat code) else none

/-- The value of digits in a base up to sixteen. -/
def baseValue? (base : Nat) (s : List Char) : Option Nat :=
  if s.isEmpty then none
  else s.foldlM (fun n c => do
    let d ← Text.hexValue? c
    if d < base then some (n * base + d) else none) 0

/-- The character named by exactly `count` hexadecimal digits, the first of which may be a plus
sign. -/
def codeEscape? (count : Nat) (s : List Char) : Option Char :=
  let digits := s.take count
  if digits.length < count then none
  else
    let digits := match digits with
      | '+' :: rest => rest
      | _ => digits
    (baseValue? 16 digits).bind nonZeroChar?

/-- The character that one byte names, which has to be ASCII and not NUL. -/
def byteEscape? (base : Nat) (digits : List Char) : Option Char :=
  (baseValue? base digits).bind fun n => if n % 256 ≤ 127 then nonZeroChar? (n % 256) else none

/-- What follows a backslash in an escaped string: the character meant, and how many characters name
it. -/
def backslash? : List Char → Option (Char × Nat)
  | [] => none
  | 'b' :: _ => some (Char.ofNat 8, 1)
  | 'f' :: _ => some (Char.ofNat 12, 1)
  | 'n' :: _ => some ('\n', 1)
  | 'r' :: _ => some ('\r', 1)
  | 't' :: _ => some ('\t', 1)
  | 'u' :: rest => (codeEscape? 4 rest).map fun c => (c, 5)
  | 'U' :: rest => (codeEscape? 8 rest).map fun c => (c, 9)
  | 'x' :: rest =>
    let digits := (rest.take 2).takeWhile Text.isHexDigit
    if digits.isEmpty then some ('x', 1)
    else (byteEscape? 16 digits).map fun c => (c, 1 + digits.length)
  | c :: rest =>
    if '0' ≤ c ∧ c ≤ '7' then
      let digits := c :: (rest.take 2).takeWhile fun d => decide ('0' ≤ d ∧ d ≤ '7')
      (byteEscape? 8 digits).map fun c => (c, digits.length)
    else (nonZeroChar? c.toNat).map fun c => (c, 1)

/-- The value of an escaped string up to the closing quote, and the number of characters with it. -/
def escapedBody : List Char → Option (List Char × Nat)
  | [] => none
  | '\'' :: '\'' :: rest => (escapedBody rest).map fun (v, n) => ('\'' :: v, n + 2)
  | '\'' :: _ => some ([], 1)
  | '\\' :: rest =>
    match backslash? rest with
    | none => none
    | some (c, k) => (escapedBody (rest.drop k)).map fun (v, n) => (c :: v, n + k + 1)
  | c :: rest => (escapedBody rest).map fun (v, n) => (c :: v, n + 1)
termination_by s => s.length
decreasing_by all_goals simp only [List.length_cons, List.length_drop]; omega

/-- The character named by `count` more hexadecimal digits; `ahead` characters of the token have been
read before them. -/
def unicodeDigits : (count : Nat) → (code ahead : Nat) → List Char → Except ScanFault Char
  | 0, code, ahead, _ =>
    if code.isValidChar then .ok (Char.ofNat code) else .error ⟨.unicodeCharacter code, ahead⟩
  | _ + 1, _, ahead, [] => .error ⟨.unicodeEscapeCut, ahead⟩
  | count + 1, code, ahead, c :: rest =>
    match Text.hexValue? c with
    | none => .error ⟨.unicodeDigit c, ahead + 1⟩
    | some d => unicodeDigits count (code * 16 + d) (ahead + 1) rest

/-- The value of a string with code points up to the closing quote, and the number of characters of
the token with it; `ahead` characters have been read before. -/
def unicodeBody (ahead : Nat) : List Char → Except ScanFault (List Char × Nat)
  | [] => .error ⟨.unterminatedUnicode, ahead⟩
  | '\'' :: '\'' :: rest => do
    let (v, n) ← unicodeBody (ahead + 2) rest
    return ('\'' :: v, n)
  | '\'' :: _ => .ok ([], ahead + 1)
  | '\\' :: '\\' :: rest => do
    let (v, n) ← unicodeBody (ahead + 2) rest
    return ('\\' :: v, n)
  | '\\' :: '+' :: rest => do
    let c ← unicodeDigits 6 0 (ahead + 2) rest
    let (v, n) ← unicodeBody (ahead + 8) (rest.drop 6)
    return (c :: v, n)
  | '\\' :: rest => do
    let c ← unicodeDigits 4 0 (ahead + 1) rest
    let (v, n) ← unicodeBody (ahead + 5) (rest.drop 4)
    return (c :: v, n)
  | c :: rest => do
    let (v, n) ← unicodeBody (ahead + 1) rest
    return (c :: v, n)
termination_by s => s.length
decreasing_by all_goals simp only [List.length_cons, List.length_drop]; omega

/-- The number of characters up to and with the end of a comment that is open `depth` deep, `last`
being the character before. -/
def commentLength : (depth : Nat) → (last : Char) → List Char → Option Nat
  | _, _, [] => none
  | depth, last, c :: rest =>
    if last = '/' ∧ c = '*' then (commentLength (depth + 1) c rest).map (· + 1)
    else if last = '*' ∧ c = '/' then
      if depth ≤ 1 then some 1 else (commentLength (depth - 1) c rest).map (· + 1)
    else (commentLength depth c rest).map (· + 1)

/-- The value up to two dollar signs in a row, and the number of characters with them; `pending`
tells that the character before was a dollar sign. -/
def dollarBody : (pending : Bool) → List Char → Option (List Char × Nat)
  | _, [] => none
  | pending, c :: rest =>
    if c = '$' then
      if pending then some ([], 1) else (dollarBody true rest).map fun (v, n) => (v, n + 1)
    else
      (dollarBody false rest).map fun (v, n) => ((if pending then ['$', c] else [c]) ++ v, n + 1)

/-- Compares a tag with the text: whether it stands there, and how many characters were compared;
`none` when the text ends first. -/
def compareTag : (tag s : List Char) → Option (Bool × Nat)
  | [], _ => some (true, 0)
  | _ :: _, [] => none
  | t :: ts, c :: rest =>
    if c = t then (compareTag ts rest).map fun (same, n) => (same, n + 1) else some (false, 1)

/-- The value up to the tag between dollar signs, and the number of characters with it. Characters
that were compared with the tag in vain belong to the value and are not looked at again. -/
def taggedBody (tag : List Char) : List Char → Option (List Char × Nat)
  | [] => none
  | c :: rest =>
    if c ≠ '$' then (taggedBody tag rest).map fun (v, n) => (c :: v, n + 1)
    else
      match compareTag tag rest with
      | none => none
      | some (same, k) =>
        if same ∧ (rest.drop k).head? = some '$' then some ([], k + 2)
        else
          (taggedBody tag (rest.drop k)).map fun (v, n) =>
            ('$' :: rest.take k ++ v, n + k + 1)
termination_by s => s.length
decreasing_by all_goals simp only [List.length_cons, List.length_drop]; omega

/-- A word that starts with `c`. -/
def scanWord (c : Char) (rest : List Char) : Token × Nat :=
  let tail := wordTail rest
  (.word (String.ofList (c :: tail)) none, tail.length)

/-- A quoted literal whose opening quote is the first of `s`, `before` characters of the token
standing in front of it. -/
def scanLiteral (quoting : Quoting) (quote : Char) (before : Nat) (s : List Char) :
    Except ScanFault (Token × Nat) :=
  match quotedBody quote (s.drop 1) with
  | some (v, n) => .ok (.literal quoting (String.ofList v), before + n)
  | none => .error ⟨.unterminatedString, before⟩

/-- A raw literal, `s` starting with its first quote: one quote at each end or three; two quotes are
the empty literal. -/
def scanRaw (quote : Char) (s : List Char) : Except ScanFault (Token × Nat) :=
  if s.take 3 = [quote, quote, quote] then
    match tripleBody quote (s.drop 3) with
    | some (v, n) => .ok (.literal (.rawTriple quote) (String.ofList v), n + 3)
    | none => .error ⟨.unterminatedString, 4⟩
  else if s.take 2 = [quote, quote] then .ok (.literal (.raw quote) "", 2)
  else
    match quotedBody quote (s.drop 1) with
    | some (v, n) => .ok (.literal (.raw quote) (String.ofList v), n + 1)
    | none => .error ⟨.unterminatedString, 2⟩

/-- The exponent part of a number at the start of a text; empty unless a digit follows. -/
def takeExponent (s : List Char) : List Char :=
  match s with
  | e :: rest =>
    if e = 'e' ∨ e = 'E' then
      let (sign, rest) : List Char × List Char := match rest with
        | '+' :: rest => (['+'], rest)
        | '-' :: rest => (['-'], rest)
        | _ => ([], rest)
      let digits := rest.takeWhile Char.isDigit
      if digits.isEmpty then [] else e :: sign ++ digits
    else []
  | [] => []

/-- A number, or a lone point; `s` starts with a digit or a point. -/
def scanNumber (s : List Char) : Token × Nat :=
  let whole := s.takeWhile Char.isDigit
  let rest := s.dropWhile Char.isDigit
  match decide (whole = ['0']), rest with
  | true, 'x' :: rest =>
    let digits := rest.takeWhile Text.isHexDigit
    (.literal .hexadecimal (String.ofList digits), digits.length + 1)
  | _, _ =>
    let fraction := match rest with
      | '.' :: rest => '.' :: rest.takeWhile Char.isDigit
      | _ => []
    let mantissa := whole ++ fraction
    if mantissa = ['.'] then (.symbol ".", 0)
    else
      let digits := mantissa ++ takeExponent (s.drop mantissa.length)
      let long := (s.drop digits.length).head? == some 'L'
      (.number (String.ofList digits) long, digits.length - 1 + (if long then 1 else 0))

/-- Operators that start with a given character, longest first where one starts another; the
character alone is not listed. -/
def operators : Char → List String
  | '-' => ["->>", "->"]
  | '/' => ["//"]
  | '|' => ["||/", "||", "|/"]
  | '=' => ["=>", "=="]
  | '!' => ["!~~*", "!~~", "!~*", "!~", "!=", "!!"]
  | '<' => ["<=>", "<=", "<>", "<<", "<@"]
  | '>' => [">=", ">>"]
  | ':' => ["::", ":="]
  | '&' => ["&&"]
  | '^' => ["^@"]
  | '~' => ["~~*", "~~", "~*"]
  | _ => []

/-- The operator that a spelling stands for: inequality is one operator in two spellings. -/
def operatorOf (spelling : String) : String :=
  if spelling = "!=" then "<>" else spelling

/-- The longest operator that starts with `c`, or `c` alone. -/
def scanOperator (c : Char) (rest : List Char) : Token × Nat :=
  match (operators c).find? fun op => Text.startsWith (c :: rest) op.toList with
  | some op => (.symbol (operatorOf op), op.length - 1)
  | none => (.symbol c.toString, 0)

/-- What starts with a hash sign. -/
def scanHash : List Char → Token × Nat
  | '-' :: _ => (.symbol "#-", 1)
  | '>' :: '>' :: _ => (.symbol "#>>", 2)
  | '>' :: _ => (.symbol "#>", 1)
  | ' ' :: _ => (.symbol "#", 0)
  | d :: rest =>
    let tail := wordTail rest
    (.word (String.ofList ('#' :: d :: tail)) none, tail.length + 1)
  | [] => (.symbol "#", 0)

/-- What starts with an at sign. -/
def scanAt : List Char → Token × Nat
  | '>' :: _ => (.symbol "@>", 1)
  | '?' :: _ => (.symbol "@?", 1)
  | '@' :: ' ' :: _ => (.symbol "@@", 1)
  | '@' :: d :: rest =>
    let tail := wordTail rest
    (.word (String.ofList ('@' :: '@' :: d :: tail)) none, tail.length + 2)
  | '@' :: [] => (.symbol "@@", 1)
  | ' ' :: _ => (.symbol "@", 0)
  | d :: rest =>
    let tail := wordTail rest
    (.word (String.ofList ('@' :: d :: tail)) none, tail.length + 1)
  | [] => (.symbol "@", 0)

/-- A character of a tag between dollar signs. -/
def isTagPart (c : Char) : Bool :=
  Text.isLetterOrNumber c || c == '_'

/-- What starts with a dollar sign: a literal between two signs or two tags, or a parameter. -/
def scanDollar (rest : List Char) : Except ScanFault (Token × Nat) :=
  match rest with
  | '$' :: body =>
    match dollarBody false body with
    | some (v, n) => .ok (.literal (.dollar "") (String.ofList v), n + 1)
    | none => .error ⟨.unterminatedDollar, rest.length + 1⟩
  | _ =>
    let tag := rest.takeWhile isTagPart
    match rest.drop tag.length with
    | '$' :: body =>
      match taggedBody tag body with
      | some (v, n) =>
        .ok (.literal (.dollar (String.ofList tag)) (String.ofList v), tag.length + 1 + n)
      | none => .error ⟨.unterminatedTag, rest.length + 1⟩
    | _ => .ok (.placeholder (String.ofList ('$' :: tag)), tag.length)

/-- A line comment, `rest` starting with the second dash: up to and with the line feed. -/
def lineCommentLength (rest : List Char) : Nat :=
  let body := (rest.takeWhile (· != '\n')).length
  if body < rest.length then body + 1 else body

/-- An escaped string, `rest` starting with its quote. -/
def scanEscaped (rest : List Char) : Except ScanFault (Token × Nat) :=
  match escapedBody (rest.drop 1) with
  | some (v, n) => .ok (.literal .escaped (String.ofList v), n + 1)
  | none => .error ⟨.badEscapedString, 0⟩

/-- A string with code points, `rest` starting with the sign in front of its quote. -/
def scanUnicode (rest : List Char) : Except ScanFault (Token × Nat) := do
  let (v, n) ← unicodeBody 3 (rest.drop 2)
  return (.literal .unicode (String.ofList v), n - 1)

/-- A quoted identifier; its quote has been read. -/
def scanQuotedName (quote : Char) (rest : List Char) : Except ScanFault (Token × Nat) :=
  match quotedBody quote rest with
  | some (v, n) => .ok (.word (String.ofList v) (some quote), n)
  | none => .error ⟨.unterminatedIdentifier quote, 0⟩

/-- A block comment, `rest` starting with its star. -/
def scanBlockComment (rest : List Char) : Except ScanFault (Token × Nat) :=
  match commentLength 1 ' ' (rest.drop 1) with
  | some n => .ok (.blockComment, n + 1)
  | none => .error ⟨.unterminatedComment, rest.length + 1⟩

/-- A question mark and the digits that name a parameter. -/
def scanQuestionMark (rest : List Char) : Token × Nat :=
  let digits := rest.takeWhile Text.isNumber
  (.placeholder (String.ofList ('?' :: digits)), digits.length)

/-- A carriage return, to which a line feed belongs. -/
def scanReturn (rest : List Char) : Token × Nat :=
  (.blank, if rest.head? = some '\n' then 1 else 0)

/-- The ways in which a token starts. -/
inductive Start where
  | carriageReturn
  | string
  /-- A literal that a letter stands in front of. -/
  | literal (quoting : Quoting) (quote : Char)
  | raw (quote : Char)
  | escaped
  | unicode
  | quotedName
  | semicolon
  | lineComment
  | blockComment
  | hashSign
  | atSign
  | questionMark
  | dollarSign
  | number
  | word
  | blank
  | operator
  deriving DecidableEq, Repr

/-- A mark at the start of a token: one of some characters, and others right behind it. -/
structure Mark where
  firsts : List Char
  behind : List Char
  start : Start
  deriving DecidableEq, Repr

/-- The marks that tell how a token starts; no two of them stand at one place. -/
def marks : List Mark :=
  [⟨['\r'], [], .carriageReturn⟩,
   ⟨['b', 'B'], ['\''], .literal (.byte '\'') '\''⟩,
   ⟨['b', 'B'], ['"'], .literal (.byte '"') '"'⟩,
   ⟨['n', 'N'], ['\''], .literal .national '\''⟩,
   ⟨['x', 'X'], ['\''], .literal .hexadecimal '\''⟩,
   ⟨['r', 'R'], ['\''], .raw '\''⟩,
   ⟨['r', 'R'], ['"'], .raw '"'⟩,
   ⟨['e', 'E'], ['\''], .escaped⟩,
   ⟨['u', 'U'], ['&', '\''], .unicode⟩,
   ⟨['\''], [], .string⟩,
   ⟨['"', '`'], [], .quotedName⟩,
   ⟨[';'], [], .semicolon⟩,
   ⟨['-'], ['-'], .lineComment⟩,
   ⟨['/'], ['*'], .blockComment⟩,
   ⟨['#'], [], .hashSign⟩,
   ⟨['@'], [], .atSign⟩,
   ⟨['?'], [], .questionMark⟩,
   ⟨['$'], [], .dollarSign⟩]

/-- Whether a mark stands at the start of a text. -/
def Mark.stands (m : Mark) (c : Char) (rest : List Char) : Bool :=
  m.firsts.contains c && Text.startsWith rest m.behind

/-- How a token starts with a character and no mark. -/
def Start.ofChar (c : Char) : Start :=
  if c.isDigit || c == '.' then .number
  else if isWordStart c then .word
  else if Text.isBlank c then .blank
  else .operator

/-- How the token starts that the character `c` is the first of. -/
def Start.of (c : Char) (rest : List Char) : Start :=
  match marks.find? fun m => m.stands c rest with
  | some m => m.start
  | none => .ofChar c

/-- Reads the token that starts in the given way. -/
def Start.read (start : Start) (c : Char) (rest : List Char) : Except ScanFault (Token × Nat) :=
  match start with
  | .carriageReturn => .ok (scanReturn rest)
  | .string => scanLiteral .plain '\'' 0 (c :: rest)
  | .literal quoting quote => scanLiteral quoting quote 1 rest
  | .raw quote => scanRaw quote rest
  | .escaped => scanEscaped rest
  | .unicode => scanUnicode rest
  | .quotedName => scanQuotedName c rest
  | .semicolon => .ok (.semicolon, 0)
  | .lineComment => .ok (.lineComment, lineCommentLength rest)
  | .blockComment => scanBlockComment rest
  | .hashSign => .ok (scanHash rest)
  | .atSign => .ok (scanAt rest)
  | .questionMark => .ok (scanQuestionMark rest)
  | .dollarSign => scanDollar rest
  | .number => .ok (scanNumber (c :: rest))
  | .word => .ok (scanWord c rest)
  | .blank => .ok (.blank, 0)
  | .operator => .ok (scanOperator c rest)

/-- The token that starts with the character `c`, and how many characters of `rest` belong to it. -/
def scan (c : Char) (rest : List Char) : Except ScanFault (Token × Nat) :=
  (Start.of c rest).read c rest

/-- A flaw and the place where it is reported. -/
structure LexFailure where
  flaw : LexFlaw
  location : Location
  deriving DecidableEq, Repr

/-- The lexemes of a text that starts at the given place. -/
def lexFrom (here : Location) : List Char → Except LexFailure (List Lexeme)
  | [] => .ok []
  | c :: rest =>
    match scan c rest with
    | .error f => .error ⟨f.flaw, here.after ((c :: rest).take f.ahead)⟩
    | .ok (token, n) => do
      let text := c :: rest.take n
      let more ← lexFrom (here.after text) (rest.drop n)
      return ⟨token, text, here⟩ :: more
termination_by s => s.length
decreasing_by simp only [List.length_cons, List.length_drop]; omega

/-- The lexemes of a text. -/
def lex (text : List Char) : Except LexFailure (List Lexeme) :=
  lexFrom .start text

/-- The wording of a failure, with its place. -/
def LexFailure.message (f : LexFailure) : String :=
  f.flaw.message ++ f.location.text

end Sql
end SqlCells
