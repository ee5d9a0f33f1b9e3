import SqlCells.Url.Host

/-!
# URLs

The parts of a URL, its text, and the changes that connections need: hiding the password and adding
query parameters.
-/

namespace SqlCells

/-- A URL in parts. User name, password, path, query and fragment are kept with their escapes. -/
structure Url where
  scheme : List Char
  /-- Whether two slashes follow the scheme. -/
  hasAuthority : Bool
  username : List Char
  password : Option (List Char)
  host : Url.Host
  port : Option Nat
  path : List Char
  query : Option (List Char)
  fragment : Option (List Char)
  deriving DecidableEq, Repr

namespace Url

/-- User name and password, with the at sign that ends them; empty when both are. -/
def userinfoText (u : Url) : List Char :=
  match u.username, u.password with
  | [], none => []
  | name, none => name ++ ['@']
  | name, some password => name ++ ':' :: password ++ ['@']

/-- What stands between the scheme and the path. -/
def authorityText (u : Url) : List Char :=
  if u.hasAuthority then
    ['/', '/'] ++ u.userinfoText ++ (u.host.text?).getD []
      ++ (match u.port with
        | some p => ':' :: Text.decimal p
        | none => [])
  else if Text.startsWith u.path ['/', '/'] then ['/', '.']
  else []

/-- An optional part with the sign in front of it. -/
def optionalPart (sign : Char) : Option (List Char) → List Char
  | some s => sign :: s
  | none => []

/-- The text of a URL. -/
def text (u : Url) : List Char :=
  u.scheme ++ ':' :: u.authorityText ++ u.path ++ optionalPart '?' u.query
    ++ optionalPart '#' u.fragment

/-- Whether the path is a text without structure. -/
def isOpaque (u : Url) : Bool :=
  !u.hasAuthority && u.path.head? != some '/'

/-- The URL with its password replaced; `none` where a password has no place. -/
def withPassword? (u : Url) (password : List Char) : Option Url :=
  if u.host = .none ∨ u.scheme = "file".toList then none
  else some { u with password := some (escape userinfoSet password) }

/-- The URL with query parameters added at the end of its query. -/
def addPairs (u : Url) (pairs : List (List Char × List Char)) : Url :=
  let added := pairs.map fun (key, value) => formPair key value
  let query := match u.query with
    | some q => if q.isEmpty then added else q :: added
    | none => added
  { u with query := some (Text.joinWith ['&'] query) }

end Url
end SqlCells
