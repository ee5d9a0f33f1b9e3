import SqlCells.Number.Decimal
import SqlCells.Number.Integer

/-!
# JSON values

Values with the fields of an object in the order they were written, their normal form (fields
sorted by key, of repeated keys the last), and their compact and indented texts.
-/

namespace SqlCells

/-- A JSON value. Whole numbers and real numbers are told apart. -/
inductive Json where
  | null
  | bool (b : Bool)
  | int (i : Int)
  | real (x : Binary64)
  | string (s : String)
  | array (items : List Json)
  | object (fields : List (String × Json))
  deriving Inhabited, Repr

namespace Json

/-- Puts a field in its place among fields sorted by key; an equal key is replaced. -/
def insertField (key : String) (value : Json) : List (String × Json) → List (String × Json)
  | [] => [(key, value)]
  | (k, v) :: rest =>
    if key < k then (key, value) :: (k, v) :: rest
    else if key = k then (key, value) :: rest
    else (k, v) :: insertField key value rest

/-- The fields sorted by key, of repeated keys the last. -/
def sortFields (fields : List (String × Json)) : List (String × Json) :=
  fields.foldl (fun sorted (k, v) => insertField k v sorted) []

mutual

/-- The normal form: in every object the fields are sorted by key and keys are distinct. -/
def normalize : Json → Json
  | .array items => .array (normalizeItems items)
  | .object fields => .object (sortFields (normalizeFields fields))
  | v => v

/-- Normal forms of the items of an array. -/
def normalizeItems : List Json → List Json
  | [] => []
  | v :: rest => normalize v :: normalizeItems rest

/-- Normal forms of the values of an object, in the order written. -/
def normalizeFields : List (String × Json) → List (String × Json)
  | [] => []
  | (k, v) :: rest => (k, normalize v) :: normalizeFields rest

end

/-- One character of a string as it is written between the quotes. -/
def escapeChar (c : Char) : List Char :=
  if c = '"' then ['\\', '"']
  else if c = '\\' then ['\\', '\\']
  else if c = '\n' then ['\\', 'n']
  else if c = '\r' then ['\\', 'r']
  else if c = '\t' then ['\\', 't']
  else if c.toNat = 8 then ['\\', 'b']
  else if c.toNat = 12 then ['\\', 'f']
  else if c.toNat < 0x20 then ['\\', 'u', '0', '0'] ++ Text.hexByte (UInt8.ofNat c.toNat)
  else [c]

/-- A string in quotes. -/
def stringText (s : String) : List Char :=
  '"' :: s.toList.flatMap escapeChar ++ ['"']

/-- A real number; what is not a number or not finite is written `null`. -/
def realText (x : Binary64) : List Char :=
  if x.isFinite then x.jsonText else "null".toList

mutual

/-- The text without any blanks. -/
def compact : Json → List Char
  | .null => "null".toList
  | .bool true => "true".toList
  | .bool false => "false".toList
  | .int i => Number.integer i
  | .real x => realText x
  | .string s => stringText s
  | .array items => '[' :: compactItems items ++ [']']
  | .object fields => '\x7b' :: compactFields fields ++ ['\x7d']

/-- The items of an array between commas. -/
def compactItems : List Json → List Char
  | [] => []
  | [v] => compact v
  | v :: w :: rest => compact v ++ ',' :: compactItems (w :: rest)

/-- The fields of an object between commas. -/
def compactFields : List (String × Json) → List Char
  | [] => []
  | [(k, v)] => stringText k ++ ':' :: compact v
  | (k, v) :: f :: rest => stringText k ++ ':' :: compact v ++ ',' :: compactFields (f :: rest)

end

/-- A line break followed by two spaces for each level. -/
def newLine (level : Nat) : List Char :=
  '\n' :: List.replicate (2 * level) ' '

mutual

/-- The text with one item or field a line, indented by two spaces a level. -/
def indented (level : Nat) : Json → List Char
  | .array [] => ['[', ']']
  | .array (v :: rest) =>
    '[' :: newLine (level + 1) ++ indentedItems (level + 1) (v :: rest) ++ newLine level ++ [']']
  | .object [] => ['\x7b', '\x7d']
  | .object (f :: rest) =>
    '\x7b' :: newLine (level + 1) ++ indentedFields (level + 1) (f :: rest) ++ newLine level
      ++ ['\x7d']
  | v => compact v

/-- The items of an array, each on its own line. -/
def indentedItems (level : Nat) : List Json → List Char
  | [] => []
  | [v] => indented level v
  | v :: w :: rest => indented level v ++ ',' :: newLine level ++ indentedItems level (w :: rest)

/-- The fields of an object, each on its own line. -/
def indentedFields (level : Nat) : List (String × Json) → List Char
  | [] => []
  | [(k, v)] => stringText k ++ ':' :: ' ' :: indented level v
  | (k, v) :: f :: rest =>
    stringText k ++ ':' :: ' ' :: indented level v ++ ',' :: newLine level
      ++ indentedFields level (f :: rest)

end

end Json
end SqlCells
