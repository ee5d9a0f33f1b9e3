import SqlCells.Sql.Normal.Statement

/-!
# Explanations of driver errors

A driver's error is explained when it is recognised.  For a syntax error each statement of the query
is read again: one that cannot be read is reported with the place of the flaw, and one that reads
but is not in normal form is shown in that form.
-/

namespace SqlCells
namespace Explain

/-- The driver's own words, at the end of every explanation. -/
def driverWords (message : String) : String :=
  "\nOriginal error message from DB driver:\n" ++ message ++ "\n"

/-- A statement without its semicolon and the blanks around it. -/
def bareStatement (statement : List Char) : List Char :=
  let s := Text.trim statement
  Text.trim ((Text.dropSuffix? [';'] s).getD s)

/-- What may be wrong with a statement: the flaw, or that it is not in normal form. A statement that
equals one of its normal forms, the case of ASCII letters aside, has nothing wrong. -/
def reason? (statement : List Char) : Option String :=
  let s := bareStatement statement
  match Sql.normalForms s with
  | .error f => some ("Syntax Error in " ++ String.ofList s ++ ": " ++ f.message ++ "\n")
  | .ok forms =>
    let texts := forms.map fun n => (n.text.map String.toList).getD s
    if texts.isEmpty || texts.any (Text.eqIgnoringAsciiCase s) then none
    else some ("Did you mean : " ++ String.ofList (Text.joinWith [';', ' '] texts) ++ "\n")

/-- The explanation of a syntax error in a query. -/
def syntaxError (message query : String) : String :=
  let reasons := (Sql.splitStatements query.toList).filterMap reason?
  "\nLooks like there is a syntax error in your query."
    ++ (if reasons.isEmpty then "" else "Possible reason: \n" ++ String.join reasons)
    ++ "\n" ++ driverWords message

/-- The explanation of a driver's message about a query, where there is one. -/
def detail? (message query : String) : Option String :=
  if Text.contains message.toList "syntax error".toList then some (syntaxError message query)
  else if Text.contains message.toList "fe_sendauth: no password supplied".toList then
    some ("\nLooks like you have run into some issues. "
      ++ "Review our DB connection via URL strings guide: "
      ++ "https://jupysql.ploomber.io/en/latest/connecting.html ." ++ driverWords message)
  else none

end Explain
end SqlCells
