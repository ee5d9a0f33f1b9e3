import SqlCells.Json.Value

/-!
# Reading JSON

A reader for JSON texts that says what is wrong and where.  Positions count bytes of the UTF-8
encoding within a line; lines end at line feeds.  Arrays and objects may be nested up to 127 deep.
-/

namespace SqlCells
namespace Json

/-- Why a text is not JSON. -/
inductive Flaw where
  | endInList
  | endInObject
  | endInString
  | endInValue
  | missingColon
  | missingListComma
  | missingObjectComma
  | badIdent
  | missingValue
  | badEscape
  | badNumber
  | numberOutOfRange
  | controlCharacter
  | keyNotString
  | loneSurrogate
  | trailingComma
  | trailingCharacters
  | endOfHexEscape
  | tooDeep
  deriving DecidableEq, Repr

/-- The wording of a flaw. -/
def Flaw.message : Flaw → String
  | .endInList => "EOF while parsing a list"
  | .endInObject => "EOF while parsing an object"
  | .endInString => "EOF while parsing a string"
  | .endInValue => "EOF while parsing a value"
  | .missingColon => "expected `:`"
  | .missingListComma => "expected `,` or `]`"
  | .missingObjectComma => "expected `,` or `\x7d`"
  | .badIdent => "expected ident"
  | .missingValue => "expected value"
  | .badEscape => "invalid escape"
  | .badNumber => "invalid number"
  | .numberOutOfRange => "number out of range"
  | .controlCharacter => "control character (\\u0000-\\u001F) found while parsing a string"
  | .keyNotString => "key must be a string"
  | .loneSurrogate => "lone leading surrogate in hex escape"
  | .trailingComma => "trailing comma"
  | .trailingCharacters => "trailing characters"
  | .endOfHexEscape => "unexpected end of hex escape"
  | .tooDeep => "recursion limit exceeded"

/-- The number of bytes in the UTF-8 encoding of a text. -/
def byteCount (s : List Char) : Nat :=
  s.foldl (fun n c => n + c.utf8Size) 0

/-- A flaw and how many bytes from the end of the text it was met. -/
structure Failure where
  flaw : Flaw
  bytesLeft : Nat
  deriving DecidableEq, Repr

/-- A flaw at the place where `rest` starts. -/
def failAt {α : Type} (flaw : Flaw) (rest : List Char) : Except Failure α :=
  .error ⟨flaw, byteCount rest⟩

/-- A flaw one byte after the place where `rest` starts, or at the end of the text. -/
def failAfter {α : Type} (flaw : Flaw) (rest : List Char) : Except Failure α :=
  .error ⟨flaw, byteCount rest - 1⟩

/-- The blanks of JSON. -/
def isJsonBlank (c : Char) : Bool :=
  c == ' ' || c == '\n' || c == '\t' || c == '\r'

/-- Drops blanks. -/
def skipBlanks (s : List Char) : List Char :=
  s.dropWhile isJsonBlank

/-- Reads the given characters one by one. -/
def expectWord : List Char → List Char → Except Failure (List Char)
  | [], s => .ok s
  | _ :: _, [] => failAt .endInValue []
  | w :: ws, c :: rest => if w = c then expectWord ws rest else failAt .badIdent rest

/-- Four hexadecimal digits of an escape. -/
def hexEscape (s : List Char) : Except Failure (Nat × List Char) :=
  if byteCount s < 4 then failAt .endInString []
  else match s with
    | a :: b :: c :: d :: rest =>
      match Text.hexValue? a, Text.hexValue? b, Text.hexValue? c, Text.hexValue? d with
      | some a, some b, some c, some d => .ok (((a * 16 + b) * 16 + c) * 16 + d, rest)
      | _, _, _, _ => .error ⟨.badEscape, byteCount s - 4⟩
    | _ => .error ⟨.badEscape, byteCount s - 4⟩

/-- What follows the `u` of an escape: one code unit, or two that make up a character. -/
def unicodeEscape (s : List Char) : Except Failure (Char × List Char) := do
  let (n, rest) ← hexEscape s
  if 0xDC00 ≤ n ∧ n ≤ 0xDFFF then failAt .loneSurrogate rest
  else if n < 0xD800 ∨ 0xDBFF < n then return (Char.ofNat n, rest)
  else match rest with
    | [] => failAt .endInString []
    | '\\' :: [] => failAt .endInString []
    | '\\' :: 'u' :: rest =>
      let (m, rest) ← hexEscape rest
      if m < 0xDC00 ∨ 0xDFFF < m then failAt .loneSurrogate rest
      else return (Char.ofNat (0x10000 + (n - 0xD800) * 0x400 + (m - 0xDC00)), rest)
    | '\\' :: rest => failAfter .endOfHexEscape rest
    | rest => failAfter .endOfHexEscape rest

/-- What follows a backslash. -/
def escape : List Char → Except Failure (Char × List Char)
  | [] => failAt .endInString []
  | '"' :: rest => .ok ('"', rest)
  | '\\' :: rest => .ok ('\\', rest)
  | '/' :: rest => .ok ('/', rest)
  | 'b' :: rest => .ok (Char.ofNat 8, rest)
  | 'f' :: rest => .ok (Char.ofNat 12, rest)
  | 'n' :: rest => .ok ('\n', rest)
  | 'r' :: rest => .ok ('\r', rest)
  | 't' :: rest => .ok ('\t', rest)
  | 'u' :: rest => unicodeEscape rest
  | c :: rest => .error ⟨.badEscape, byteCount (c :: rest) - 1⟩

/-- The rest of a string, up to and with the closing quote; `fuel` bounds the characters read. -/
def stringBody : (fuel : Nat) → (read : List Char) → List Char → Except Failure (String × List Char)
  | 0, _, _ => failAt .endInString []
  | _ + 1, _, [] => failAt .endInString []
  | fuel + 1, read, c :: rest =>
    if c = '"' then .ok (String.ofList read.reverse, rest)
    else if c = '\\' then do
      let (e, rest) ← escape rest
      stringBody fuel (e :: read) rest
    else if c.toNat < 0x20 then failAt .controlCharacter rest
    else stringBody fuel (c :: read) rest

/-- The largest whole number kept exactly while reading. -/
def maxWhole : Nat := UInt64.size - 1

/-- The number `significand * 10 ^ exponent`, rounded once for the significand, once for the power
of ten and once for their product or quotient.  Powers beyond `1e308` are divided out in steps. -/
def scale (significand : Nat) (exponent : Int) : Option Binary64 :=
  let f := Binary64.ofRatio significand 1
  let pow (n : Nat) := Binary64.ofRatio (Nat.pow 10 n) 1
  if significand = 0 then some Binary64.zero
  else if 0 ≤ exponent then
    if 308 < exponent then none
    else
      let x := f.mulMagnitude (pow exponent.toNat)
      if x.isFinite then some x else none
  else
    let e := exponent.natAbs
    if e ≤ 308 then some (f.divMagnitude (pow e))
    else
      let f := f.divMagnitude (pow 308)
      if f.isZero then some f
      else if e ≤ 616 then some (f.divMagnitude (pow (e - 308)))
      else some Binary64.zero

/-- The real number with the given parts, when it is in range. -/
def realOfParts (negative : Bool) (significand : Nat) (exponent : Int) (rest : List Char) :
    Except Failure (Json × List Char) :=
  match scale significand exponent with
  | some x => .ok (.real (x.withSign negative), rest)
  | none => failAt .numberOutOfRange rest

/-- Adds digits to a significand while it stays below the largest whole number; also gives the
number of digits added and the text from the first digit not added. -/
def addDigits (significand : Nat) : List Char → Nat × Nat × List Char
  | [] => (significand, 0, [])
  | c :: rest =>
    let next := significand * 10 + (c.toNat - '0'.toNat)
    if c.isDigit && decide (next ≤ maxWhole) then
      let (s, n, rest) := addDigits next rest
      (s, n + 1, rest)
    else (significand, 0, c :: rest)

/-- The exponent part, after its letter. -/
def exponentPart (negative : Bool) (significand : Nat) (start : Int) (s : List Char) :
    Except Failure (Json × List Char) := do
  let (down, s) := match s with
    | '+' :: rest => (false, rest)
    | '-' :: rest => (true, rest)
    | _ => (false, s)
  match s with
  | [] => failAt .endInValue []
  | c :: rest =>
    if !c.isDigit then .error ⟨.badNumber, byteCount (c :: rest) - 1⟩
    else
      let digits := s.takeWhile Char.isDigit
      let after := s.dropWhile Char.isDigit
      let e := Binary64.digitsValue digits
      if Nat.pow 2 31 ≤ e then
        if significand ≠ 0 ∧ !down then
          -- The flaw is met right after the digit that carries the exponent out of range.
          let fits (n : Nat) : Bool :=
            decide (Binary64.digitsValue (digits.take n) < Nat.pow 2 31)
          let kept := (List.range digits.length).foldl (fun k n => if fits (n + 1) then n + 1 else k) 0
          failAt .numberOutOfRange (s.drop (kept + 1))
        else .ok (.real (Binary64.zero.withSign negative), after)
      else realOfParts negative significand (if down then start - e else start + e) after

/-- What follows the digits of a real number: an exponent part or nothing. -/
def afterDigits (negative : Bool) (significand : Nat) (exponent : Int) (s : List Char) : Except Failure (Json × List Char) :=
  match s with
  | 'e' :: rest => exponentPart negative significand exponent rest
  | 'E' :: rest => exponentPart negative significand exponent rest
  | _ => realOfParts negative significand exponent s

/-- The fraction, after its point. Digits that no longer fit the significand are passed over. -/
def fractionPart (negative : Bool) (significand : Nat) (start : Int) (s : List Char) : Except Failure (Json × List Char) :=
  let (significand, n, rest) := addDigits significand s
  let exponent := start - n
  match rest with
  | [] => if n = 0 then failAfter .endInValue [] else afterDigits negative significand exponent []
  | c :: _ =>
    if c.isDigit then afterDigits negative significand exponent (rest.dropWhile Char.isDigit)
    else if n = 0 then failAfter .badNumber rest
    else afterDigits negative significand exponent rest

/-- What follows the whole part of a number. -/
def afterWhole (negative : Bool) (significand : Nat) (s : List Char) : Except Failure (Json × List Char) :=
  match s with
  | '.' :: rest => fractionPart negative significand 0 rest
  | 'e' :: rest => exponentPart negative significand 0 rest
  | 'E' :: rest => exponentPart negative significand 0 rest
  | _ =>
    if !negative then .ok (.int significand, s)
    else if significand = 0 ∨ Nat.pow 2 63 < significand then
      .ok (.real ((Binary64.ofRatio significand 1).withSign true), s)
    else .ok (.int (-(significand : Int)), s)

/-- A number, after its sign. -/
def number (negative : Bool) : List Char → Except Failure (Json × List Char)
  | [] => failAt .endInValue []
  | '0' :: rest =>
    match rest with
    | c :: _ => if c.isDigit then failAfter .badNumber rest else afterWhole negative 0 rest
    | [] => afterWhole negative 0 []
  | c :: rest =>
    if !c.isDigit then .error ⟨.badNumber, byteCount (c :: rest) - 1⟩
    else
      let (significand, _, after) := addDigits 0 (c :: rest)
      match after with
      | d :: _ =>
        if d.isDigit then
          let more := after.takeWhile Char.isDigit
          let after := after.dropWhile Char.isDigit
          match after with
          | '.' :: rest => fractionPart negative significand more.length rest
          | _ => afterDigits negative significand more.length after
        else afterWhole negative significand after
      | [] => afterWhole negative significand []

/-- The colon between a key and its value. -/
def colon (s : List Char) : Except Failure (List Char) :=
  match skipBlanks s with
  | ':' :: rest => .ok rest
  | [] => failAfter .endInObject []
  | rest => failAfter .missingColon rest

mutual

/-- A value; `depth` is how many more arrays and objects may be opened, `fuel` bounds the steps. -/
def value (fuel depth : Nat) (s : List Char) : Except Failure (Json × List Char) :=
  match fuel with
  | 0 => failAfter .endInValue []
  | fuel + 1 =>
    match skipBlanks s with
    | [] => failAfter .endInValue []
    | 'n' :: rest => do return (.null, ← expectWord "ull".toList rest)
    | 't' :: rest => do return (.bool true, ← expectWord "rue".toList rest)
    | 'f' :: rest => do return (.bool false, ← expectWord "alse".toList rest)
    | '-' :: rest => number true rest
    | '"' :: rest => do
      let (t, rest) ← stringBody (rest.length + 1) [] rest
      return (.string t, rest)
    | '[' :: rest =>
      if depth ≤ 1 then failAfter .tooDeep ('[' :: rest)
      else do
        let (items, rest) ← items fuel (depth - 1) true rest
        return (.array items, rest)
    | '\x7b' :: rest =>
      if depth ≤ 1 then failAfter .tooDeep ('\x7b' :: rest)
      else do
        let (fields, rest) ← fields fuel (depth - 1) true rest
        return (.object fields, rest)
    | c :: rest => if c.isDigit then number false (c :: rest) else failAfter .missingValue (c :: rest)

/-- The items of an array up to and with the closing bracket. -/
def items (fuel depth : Nat) (first : Bool) (s : List Char) : Except Failure (List Json × List Char) :=
  match fuel with
  | 0 => failAfter .endInList []
  | fuel + 1 => do
    let next : Except Failure (Option (List Char)) :=
      match skipBlanks s with
      | [] => failAfter .endInList []
      | ']' :: rest => .ok (some rest)
      | rest =>
        if first then .ok none
        else match rest with
          | ',' :: rest =>
            match skipBlanks rest with
            | ']' :: rest => failAfter .trailingComma (']' :: rest)
            | [] => failAfter .endInValue []
            | _ => .ok none
          | _ => failAfter .missingListComma rest
    match ← next with
    | some rest => return ([], rest)
    | none =>
      let from' := if first then s else (skipBlanks s).drop 1
      let (v, rest) ← value fuel depth from'
      let (more, rest) ← items fuel depth false rest
      return (v :: more, rest)

/-- The fields of an object up to and with the closing brace. -/
def fields (fuel depth : Nat) (first : Bool) (s : List Char) : Except Failure (List (String × Json) × List Char) :=
  match fuel with
  | 0 => failAfter .endInObject []
  | fuel + 1 => do
    let next : Except Failure (Option (List Char)) :=
      match skipBlanks s with
      | [] => failAfter .endInObject []
      | '\x7d' :: rest => .ok (some rest)
      | rest =>
        if first then
          match rest with
          | '"' :: _ => .ok none
          | _ => failAfter .keyNotString rest
        else match rest with
          | ',' :: rest =>
            match skipBlanks rest with
            | '"' :: _ => .ok none
            | '\x7d' :: rest => failAfter .trailingComma ('\x7d' :: rest)
            | [] => failAfter .endInValue []
            | rest => failAfter .keyNotString rest
          | _ => failAfter .missingObjectComma rest
    match ← next with
    | some rest => return ([], rest)
    | none =>
      let from' := skipBlanks (if first then s else (skipBlanks s).drop 1)
      let (key, rest) ← stringBody (from'.length + 1) [] (from'.drop 1)
      let rest ← colon rest
      let (v, rest) ← value fuel depth rest
      let (more, rest) ← fields fuel depth false rest
      return ((key, v) :: more, rest)

end

/-- How deeply arrays and objects may be nested, plus one. -/
def depthLimit : Nat := 128

/-- A whole text: one value with blanks around it. -/
def parse (text : List Char) : Except Failure Json := do
  let (v, rest) ← value (2 * text.length + 2) depthLimit text
  match skipBlanks rest with
  | [] => return v
  | rest => failAfter .trailingCharacters rest

/-- Line and column after the first `bytes` bytes of a text. -/
def position (bytes : Nat) (line column : Nat) : List Char → Nat × Nat
  | [] => (line, column)
  | c :: rest =>
    if bytes = 0 then (line, column)
    else if c = '\n' then position (bytes - 1) (line + 1) 0 rest
    else position (bytes - c.utf8Size) line (column + min bytes c.utf8Size) rest

/-- The wording of a failure, with the line and column where it was met. -/
def Failure.message (text : List Char) (f : Failure) : String :=
  let (line, column) := position (byteCount text - f.bytesLeft) 1 0 text
  s!"{f.flaw.message} at line {line} column {column}"

end Json
end SqlCells
