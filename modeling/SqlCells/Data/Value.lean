import SqlCells.Json.Parser
import SqlCells.Text.Escaped

/-!
# Values of a database

One cell of a result: its text in tables and templates, its SQL literal, its JSON form, the key it
answers to, and the tagged JSON form from which it can be read back.
-/

namespace SqlCells

/-- A value of a database. -/
inductive Value where
  | null
  | bool (b : Bool)
  | int (i : Int64)
  | float (x : Binary64)
  | text (s : String)
  | bytes (b : List UInt8)
  deriving DecidableEq, Repr, Inhabited

/-- A row of a result. -/
abbrev Row := List Value

namespace Value

/-- Whether the value is missing. -/
def isNull : Value → Bool
  | .null => true
  | _ => false

/-- The stand-in for binary data, which is not shown. -/
def bytesText (b : List UInt8) : List Char :=
  '<' :: Text.decimal b.length ++ " bytes>".toList

/-- The text of a value in tables, files and templates. -/
def display : Value → List Char
  | .null => "None".toList
  | .bool true => "true".toList
  | .bool false => "false".toList
  | .int i => Number.integer i.toInt
  | .float x => x.plainText
  | .text s => s.toList
  | .bytes b => bytesText b

/-- A text as an SQL string: in single quotes, a single quote inside written twice. -/
def sqlString (s : List Char) : List Char :=
  '\'' :: s.flatMap (fun c => if c = '\'' then ['\'', '\''] else [c]) ++ ['\'']

/-- Two upper-case hexadecimal digits for a byte. -/
def upperHexByte (b : UInt8) : List Char :=
  [Text.upperHexDigit (b.toNat / 16), Text.upperHexDigit (b.toNat % 16)]

/-- The value as an SQL literal. -/
def sqlLiteral : Value → List Char
  | .null => "NULL".toList
  | .bool true => "TRUE".toList
  | .bool false => "FALSE".toList
  | .int i => Number.integer i.toInt
  | .float x => x.plainText
  | .text s => sqlString s.toList
  | .bytes b => 'X' :: '\'' :: b.flatMap upperHexByte ++ ['\'']

/-- The value in JSON: numbers that are not finite become `null`, binary data its stand-in. -/
def toJson : Value → Json
  | .null => .null
  | .bool b => .bool b
  | .int i => .int i.toInt
  | .float x => if x.isFinite then .real x else .null
  | .text s => .string s
  | .bytes b => .string (String.ofList (bytesText b))

/-- The value in JSON with its kind, for storage. -/
def tagged : Value → Json
  | .null => .string "Null"
  | .bool b => .object [("Bool", .bool b)]
  | .int i => .object [("Int", .int i.toInt)]
  | .float x => .object [("Float", .real x)]
  | .text s => .object [("String", .string s)]
  | .bytes b => .object [("Bytes", .array (b.map fun x => .int x.toNat))]

/-- A byte from its number. -/
def byteOfJson? : Json → Option UInt8
  | .int i => if 0 ≤ i ∧ i < 256 then some (UInt8.ofNat i.toNat) else none
  | _ => none

/-- The value with the given kind. -/
def ofTagged? (json : Json) : Option Value :=
  match json with
  | .string "Null" => some .null
  | .object [("Null", .null)] => some .null
  | .object [("Bool", .bool b)] => some (.bool b)
  | .object [("Int", .int i)] => (Number.int64? i).map .int
  | .object [("Float", .real x)] => some (.float x)
  | .object [("Float", .int i)] =>
    some (.float ((Binary64.ofRatio i.natAbs 1).withSign (decide (i < 0))))
  | .object [("String", .string s)] => some (.text s)
  | .object [("Bytes", .array items)] => (items.mapM byteOfJson?).map .bytes
  | _ => none

/-- Reads a stored value. -/
def read? (text : List Char) : Option Value :=
  match Json.parse text with
  | .ok json => ofTagged? json
  | .error _ => none

/-- Whether a value answers to a key: a text to itself, a number or truth value to every text that
reads as it. -/
def matchesKey (v : Value) (key : String) : Bool :=
  match v with
  | .null => false
  | .text s => s == key
  | .int i => Number.readInt64? key.toList == some i
  | .float x =>
    match Binary64.read? key.toList with
    | some y => y.numEq x
    | none => false
  | .bool b => key == (if b then "true" else "false")
  | .bytes _ => false

/-- The diagnostic text of a value, with its kind. -/
def debugText : Value → List Char
  | .null => "Null".toList
  | .bool b => "Bool(".toList ++ (if b then "true".toList else "false".toList) ++ [')']
  | .int i => "Int(".toList ++ Number.integer i.toInt ++ [')']
  | .float x => "Float(".toList ++ x.debugText ++ [')']
  | .text s => "String(".toList ++ Text.quoted s.toList ++ [')']
  | .bytes b =>
    "Bytes([".toList ++ Text.joinWith [',', ' '] (b.map fun x => Text.decimal x.toNat)
      ++ [']', ')']

end Value
end SqlCells
