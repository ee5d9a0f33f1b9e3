import SqlCells.Sql.Normal.Query
import SqlCells.Text.Escaped

/-!
# Copies

Statements that copy rows between a table or a query and a file, a program or the session's own
input and output.
-/

namespace SqlCells
namespace Sql
namespace Reader

/-- A literal of one byte. -/
def literalByte : Reader String := do
  let here ← place
  let value ← literalText
  if value.utf8ByteSize = 1 then return value
  else
    throw (.refused ("Expect a char, found " ++ String.ofList (Text.quoted value.toList)) here)

/-- A text between quotes behind the keyword that it belongs to. -/
def quotedAfter (keyword : String) : Reader String := do
  return keyword ++ " " ++ betweenQuotes '\'' (← literalText)

/-- A byte between quotes behind the keyword that it belongs to. -/
def byteAfter (keyword : String) : Reader String := do
  return keyword ++ " '" ++ (← literalByte) ++ "'"

/-- A switch, which is on unless it is said to be off. -/
def switchAfter (keyword : String) : Reader String := do
  match ← oneOf ["TRUE", "FALSE"] with
  | some "FALSE" => return keyword ++ " FALSE"
  | _ => return keyword

/-- An option in the parentheses behind a copy. -/
def copyOption : Reader String := do
  let l ← peek
  match ← oneOf ["FORMAT", "FREEZE", "DELIMITER", "NULL", "HEADER", "QUOTE", "ESCAPE",
    "FORCE_QUOTE", "FORCE_NOT_NULL", "FORCE_NULL", "ENCODING"] with
  | some "FORMAT" => return "FORMAT " ++ (← identifier)
  | some "FREEZE" => switchAfter "FREEZE"
  | some "HEADER" => switchAfter "HEADER"
  | some "NULL" => quotedAfter "NULL"
  | some "ENCODING" => quotedAfter "ENCODING"
  | some "DELIMITER" => byteAfter "DELIMITER"
  | some "QUOTE" => byteAfter "QUOTE"
  | some "ESCAPE" => byteAfter "ESCAPE"
  | some keyword => return keyword ++ " " ++ (← columns)
  | none => unexpected "option" l

/-- An option of values between separators, in the older form without parentheses. -/
def separatedOption : Reader String := do
  match ← oneOf ["HEADER", "QUOTE", "ESCAPE", "FORCE"] with
  | some "HEADER" => return "HEADER"
  | some "FORCE" =>
    let kind ← if ← words ["NOT", "NULL"] then pure "FORCE NOT NULL" else do
      need "QUOTE"
      pure "FORCE QUOTE"
    return kind ++ " " ++ joined (← commaList identifier)
  | some keyword =>
    let _ ← word "AS"
    byteAfter keyword
  | none => expected "option"

/-- An option of a copy in the older form, without parentheses. -/
def plainCopyOption : Reader String := do
  match ← oneOf ["BINARY", "DELIMITER", "NULL", "CSV"] with
  | some "DELIMITER" =>
    let _ ← word "AS"
    byteAfter "DELIMITER"
  | some "NULL" =>
    let _ ← word "AS"
    quotedAfter "NULL"
  | some "CSV" => return String.intercalate " " ("CSV" :: (← many (maybe separatedOption)))
  | some keyword => return keyword
  | none => expected "option"

/-- The place that rows are copied from or to. -/
def copyTarget : Reader String := do
  if ← word "STDIN" then return "STDIN"
  else if ← word "STDOUT" then return "STDOUT"
  else if ← word "PROGRAM" then quotedAfter "PROGRAM"
  else return betweenQuotes '\'' (← literalText)

/-- A statement behind `COPY`. Rows that come with the statement would stand behind a semicolon;
such a statement stays as it is written. -/
def copy (g : Grammar) : Reader (Option String) := do
  let isQuery := isSign "(" (← peek)
  let source ←
    if isQuery then subquery g
    else do
      let table ← objectName
      let cols ← columns?
      pure (if cols.isEmpty then table else table ++ " " ++ cols)
  match ← oneOf ["FROM", "TO"] with
  | none => expected "FROM or TO"
  | some direction =>
    if direction = "FROM" ∧ isQuery then
      throw (.refused "COPY ... FROM does not support query as a source" none)
    let target ← copyTarget
    let _ ← word "WITH"
    let options ←
      if isSign "(" (← peek) then
        (do return " (" ++ joined (← parenthesized (commaList copyOption)) ++ ")")
      else pure ""
    let plain ← many (maybe plainCopyOption)
    if target = "STDIN" then
      match ← peek with
      | some l => if l.token = .semicolon then return none else unexpected ";" (some l)
      | none => expected ";"
    else
      return some ("COPY " ++ source ++ " " ++ direction ++ " " ++ target ++ options
        ++ String.join (plain.map (" " ++ ·)))

end Reader
end Sql
end SqlCells
