import SqlCells.Sql.Normal.Name

/-!
# Data types

The names of data types with their lengths and modifiers.  A name that is not known is a type of the
user's own.
-/

namespace SqlCells
namespace Sql

/-- A data type in normal form. -/
structure DataType where
  text : String
  /-- Whether the name is one of the user's own. -/
  custom : Bool := false
  deriving DecidableEq, Repr

namespace Reader

/-- A precision in parentheses, if it comes next. -/
def precision? : Reader String := do
  if ← sign "(" then
    let n ← wholeNumber
    needSign ")"
    return "(" ++ n ++ ")"
  else return ""

/-- A precision and a scale in parentheses, if they come next. -/
def precisionScale? : Reader String := do
  if ← sign "(" then
    let n ← wholeNumber
    let scale ← if ← sign "," then (do return "," ++ (← wholeNumber)) else pure ""
    needSign ")"
    return "(" ++ n ++ scale ++ ")"
  else return ""

/-- The length of a character type in parentheses, if it comes next. -/
def characterLength? : Reader String := do
  if ← sign "(" then
    if ← word "MAX" then
      needSign ")"
      return "(MAX)"
    let n ← wholeNumber
    let unit ← oneOf ["CHARACTERS", "OCTETS"]
    needSign ")"
    return "(" ++ n ++ (match unit with
      | some u => " " ++ u
      | none => "") ++ ")"
  else return ""

/-- An integer type with its precision and sign. -/
def integerType (name : String) : Reader DataType := do
  let length ← precision?
  let unsigned ← word "UNSIGNED"
  return ⟨name ++ length ++ (if unsigned then " UNSIGNED" else ""), false⟩

/-- A character type that may vary in length or be a large object. -/
def characterType (name : String) : Reader DataType := do
  let kind ←
    if ← word "VARYING" then pure " VARYING"
    else if ← words ["LARGE", "OBJECT"] then pure " LARGE OBJECT"
    else pure ""
  return ⟨name ++ kind ++ (← characterLength?), false⟩

/-- A type of points in time, with or without a time zone. -/
def timeType (name : String) : Reader DataType := do
  let length ← precision?
  let zone ←
    if ← words ["WITH", "TIME", "ZONE"] then pure " WITH TIME ZONE"
    else if ← words ["WITHOUT", "TIME", "ZONE"] then pure " WITHOUT TIME ZONE"
    else pure ""
  return ⟨name ++ length ++ zone, false⟩

/-- Text literals between commas in parentheses. -/
def textList : Reader String := do
  let items ← parenthesized (commaList do
    let l ← next
    match l.map Lexeme.token with
    | some (.literal .plain value) => return betweenQuotes '\'' value
    | _ => unexpected "a string" l)
  return "(" ++ joined items ++ ")"

/-- The modifiers of a type of the user's own up to the closing parenthesis, at most `n` of them. -/
def typeModifiers : Nat → Reader (List String)
  | 0 => return []
  | n + 1 => do
    let l ← next
    match l.map Lexeme.token with
    | some (.word value none) => return value :: (← typeModifiers n)
    | some (.word value (some q)) => return betweenQuotes q value :: (← typeModifiers n)
    | some (.number digits _) => return digits :: (← typeModifiers n)
    | some (.literal .plain value) => return value :: (← typeModifiers n)
    | some (.symbol ",") => typeModifiers n
    | some (.symbol ")") => return []
    | _ => unexpected "type modifiers" l

/-- A type of the user's own. -/
def customType : Reader DataType := do
  let name ← objectName
  if ← sign "(" then
    let modifiers ← typeModifiers ((← get).length + 1)
    return ⟨if modifiers.isEmpty then name else name ++ "(" ++ joined modifiers ++ ")", true⟩
  else return ⟨name, true⟩

/-- The type that a keyword starts, `inner` reading the types inside it; nothing when the keyword
starts none. -/
def namedType (inner : Reader DataType) (name : String) : Option (Reader DataType) :=
  let plain : Reader DataType := return ⟨name, false⟩
  let sized (length : Reader String) : Reader DataType := do return ⟨name ++ (← length), false⟩
  match name with
  | "BOOLEAN" | "BOOL" | "REAL" | "FLOAT4" | "FLOAT64" | "FLOAT8" | "UUID" | "DATE" | "INTERVAL"
  | "JSON" | "JSONB" | "REGCLASS" | "TEXT" | "BYTEA" | "INT64" | "TRIGGER" => some plain
  | "DOUBLE" => some do
    return ⟨if ← word "PRECISION" then "DOUBLE PRECISION" else "DOUBLE", false⟩
  | "TINYINT" | "INT2" | "SMALLINT" | "MEDIUMINT" | "INT" | "INT4" | "INT8" | "INTEGER"
  | "BIGINT" => some (integerType name)
  | "VARCHAR" | "NVARCHAR" => some (sized characterLength?)
  | "CHARACTER" | "CHAR" => some (characterType name)
  | "FLOAT" | "CLOB" | "BINARY" | "VARBINARY" | "BLOB" | "BYTES" | "DATETIME" | "STRING"
  | "TIMESTAMPTZ" | "TIMETZ" => some (sized precision?)
  | "NUMERIC" | "DECIMAL" | "DEC" | "BIGNUMERIC" | "BIGDECIMAL" => some (sized precisionScale?)
  | "TIMESTAMP" | "TIME" => some (timeType name)
  | "ENUM" | "SET" => some (sized textList)
  | "ARRAY" => some do
    needSign "<"
    let t ← inner
    needSign ">"
    return ⟨"ARRAY<" ++ t.text ++ ">", false⟩
  | _ => none

/-- The brackets of an array type, at most `n` pairs. -/
def arrayBrackets : Nat → Reader String
  | 0 => return ""
  | n + 1 => do
    if ← sign "[" then
      let size ← maybe wholeNumber
      needSign "]"
      return "[" ++ size.getD "" ++ "]" ++ (← arrayBrackets n)
    else return ""

/-- A data type, at most `n` types standing inside one another. -/
def dataTypeUpTo : Nat → Reader DataType
  | 0 => throw .tooDeep
  | n + 1 => do
    let l ← peek
    let base ← match l.map Lexeme.token with
      | some (.word _ _) =>
        match (wordOf l).bind (namedType (dataTypeUpTo n)) with
        | some p =>
          let _ ← next
          p
        | none => customType
      | _ => unexpected "a data type name" l
    let brackets ← arrayBrackets ((← get).length + 1)
    return if brackets.isEmpty then base else ⟨base.text ++ brackets, false⟩

/-- A data type. -/
def dataType : Reader DataType := do
  dataTypeUpTo ((← get).length + 1)

end Reader
end Sql
end SqlCells
