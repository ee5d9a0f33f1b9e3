import SqlCells.Text.Utf8
import SqlCells.Text.Words

/-!
# Escapes in URLs

Percent escapes for the characters that a part of a URL cannot hold, and the form encoding of query
parameters.
-/

namespace SqlCells
namespace Url

/-- A byte as a percent sign and two upper-case hexadecimal digits. -/
def percentByte (b : UInt8) : List Char :=
  ['%', Text.upperHexDigit (b.toNat / 16), Text.upperHexDigit (b.toNat % 16)]

/-- The bytes of a character's UTF-8 encoding, each escaped. -/
def percentChar (c : Char) : List Char :=
  (String.utf8EncodeChar c).flatMap percentByte

/-- Escapes the characters that are not ASCII, that are controls, or that belong to `set`. -/
def escape (set : List Char) (s : List Char) : List Char :=
  s.flatMap fun c =>
    if c.toNat < 0x20 ∨ 0x7F ≤ c.toNat ∨ set.contains c then percentChar c else [c]

/-- Escaped in a fragment. -/
def fragmentSet : List Char := " \"<>`".toList

/-- Escaped in a path. -/
def pathSet : List Char := fragmentSet ++ ['#', '?', '\x7b', '\x7d']

/-- Escaped in a user name or password. -/
def userinfoSet : List Char := pathSet ++ "/:;=@[\\]^|".toList

/-- Escaped in a query. -/
def querySet : List Char := " \"#<>".toList

/-- Escaped in a query of a special scheme. -/
def specialQuerySet : List Char := '\'' :: querySet

/-- Undoes percent escapes; a percent sign without two hexadecimal digits stands for itself. -/
def percentDecode : List UInt8 → List UInt8
  | 0x25 :: a :: b :: rest =>
    match Text.hexValue? (Char.ofNat a.toNat), Text.hexValue? (Char.ofNat b.toNat) with
    | some x, some y => UInt8.ofNat (x * 16 + y) :: percentDecode rest
    | _, _ => 0x25 :: percentDecode (a :: b :: rest)
  | b :: rest => b :: percentDecode rest
  | [] => []
termination_by s => s.length

/-- Whether a character stands for itself in a form-encoded text. -/
def isFormPlain (c : Char) : Bool :=
  c.isAlphanum || c == '*' || c == '-' || c == '.' || c == '_'

/-- The form encoding of a text: a blank becomes a plus sign. -/
def formEncode (s : List Char) : List Char :=
  s.flatMap fun c => if c = ' ' then ['+'] else if isFormPlain c then [c] else percentChar c

/-- One form-encoded parameter. -/
def formPair (key value : List Char) : List Char :=
  formEncode key ++ '=' :: formEncode value

/-- Undoes the form encoding of a text, as bytes. -/
def formDecodeBytes (s : List Char) : List UInt8 :=
  percentDecode ((s.map fun c => if c = '+' then ' ' else c).flatMap String.utf8EncodeChar)

/-- Undoes the form encoding of a text; bytes that are not UTF-8 are replaced. -/
def formDecode (s : List Char) : List Char :=
  Utf8.lossy (formDecodeBytes s)

/-- The parameters of a query: cut at ampersands, empty pieces left out, each cut at its first equals
sign. -/
def formPairs (query : List Char) : List (List Char × List Char) :=
  ((Text.splitAt (· == '&') query).filter fun p => !p.isEmpty).map fun p =>
    (Text.splitOnce ['='] p).getD (p, [])

/-- The parameters of a query without their encoding. -/
def decodedPairs (query : List Char) : List (List Char × List Char) :=
  (formPairs query).map fun (key, value) => (formDecode key, formDecode value)

end Url
end SqlCells
