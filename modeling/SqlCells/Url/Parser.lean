import SqlCells.Url.Basic

/-!
# Reading URLs

A text is read as a URL without a base.  Blanks and controls around it and line breaks and tabs inside
it are dropped first.  Special schemes take any number of slashes before the host and a backslash for
a slash; paths are freed from `.` and `..`.
-/

namespace SqlCells
namespace Url

/-- The kinds of scheme that are read differently. -/
inductive SchemeKind where
  | file
  | special
  | plain
  deriving DecidableEq, Repr

/-- The kind of a scheme in lower case. -/
def schemeKind (scheme : List Char) : SchemeKind :=
  match String.ofList scheme with
  | "file" => .file
  | "http" | "https" | "ws" | "wss" | "ftp" => .special
  | _ => .plain

/-- The port that a special scheme stands for. -/
def defaultPort? (scheme : List Char) : Option Nat :=
  match String.ofList scheme with
  | "http" | "ws" => some 80
  | "https" | "wss" => some 443
  | "ftp" => some 21
  | _ => none

/-- Whether a backslash counts as a slash. -/
def SchemeKind.takesBackslash (k : SchemeKind) : Bool :=
  k != .plain

/-- The text without blanks and controls around it and without tabs and line breaks. -/
def clean (s : List Char) : List Char :=
  let blank (c : Char) : Bool := decide (c.toNat ≤ 0x20)
  (Text.dropTailWhile blank (s.dropWhile blank)).filter fun c =>
    !(c == '\t' || c == '\n' || c == '\r')

/-- A character of a scheme after the first. -/
def isSchemePart (c : Char) : Bool :=
  c.isAlphanum || c == '+' || c == '-' || c == '.'

/-- The scheme in lower case and the text after its colon. -/
def takeScheme? (s : List Char) : Option (List Char × List Char) :=
  let name := s.takeWhile isSchemePart
  match name.head?, s.drop name.length with
  | some c, ':' :: rest => if c.isAlpha then some (name.map Char.toLower, rest) else none
  | _, _ => none

/-- Whether a character ends the authority. -/
def endsAuthority (k : SchemeKind) (c : Char) : Bool :=
  c == '/' || c == '?' || c == '#' || (k.takesBackslash && c == '\\')

/-- What was read of user name and password, and the text from the host on. -/
structure Userinfo where
  username : List Char
  password : Option (List Char)
  /-- Whether anything stood before the at sign. -/
  given : Bool
  rest : List Char

/-- Reads user name and password: what precedes the last at sign of the authority, cut at its first
colon. An empty password is no password. -/
def takeUserinfo (k : SchemeKind) (s : List Char) : Except Flaw Userinfo :=
  let authority := s.takeWhile fun c => !endsAuthority k c
  match Text.splitOnceLast '@' authority with
  | none => .ok ⟨[], none, false, s⟩
  | some (info, host) =>
    let rest := host ++ s.drop authority.length
    match info with
    | [] =>
      if (s.drop authority.length).isEmpty || !host.isEmpty then .ok ⟨[], none, false, rest⟩
      else .error .emptyHost
    | _ =>
      let (name, password) := match Text.splitOnce [':'] info with
        | some (name, []) => (name, none)
        | some (name, password) => (name, some (escape userinfoSet password))
        | none => (info, none)
      .ok ⟨escape userinfoSet name, password, !name.isEmpty || password.isSome, rest⟩

/-- The number of characters of the host at the start of a text: up to a colon outside brackets or
the end of the authority. -/
def hostLength (k : SchemeKind) : (inside : Bool) → List Char → Nat
  | _, [] => 0
  | inside, c :: rest =>
    if endsAuthority k c || (c == ':' && !inside) then 0
    else hostLength k (if c = '[' then true else if c = ']' then false else inside) rest + 1

/-- Reads a port after its colon, and gives the text behind it. -/
def takePort (scheme s : List Char) : Except Flaw (Option Nat × List Char) :=
  let digits := s.takeWhile Char.isDigit
  let rest := s.drop digits.length
  let n := digits.foldl (fun n c => n * 10 + (c.toNat - '0'.toNat)) 0
  let ended := match rest with
    | [] => true
    | c :: _ => c == '/' || c == '\\' || c == '?' || c == '#'
  if 65535 < n ∨ !ended then .error .badPort
  else if digits.isEmpty then .ok (none, rest)
  else .ok (if defaultPort? scheme = some n then none else some n, rest)

/-! ## Paths -/

/-- A segment that stands for the directory it is in. -/
def isSingleDot (s : List Char) : Bool :=
  ["." , "%2e"].any fun d => s.map Char.toLower == d.toList

/-- A segment that stands for the directory above. -/
def isDoubleDot (s : List Char) : Bool :=
  ["..", "%2e%2e", "%2e.", ".%2e"].any fun d => s.map Char.toLower == d.toList

/-- The path up to and with its last slash. -/
def dropLastSegment (path : List Char) : List Char :=
  Text.dropTailWhile (· != '/') path

/-- The path with its last directory removed: a closing slash that is not the first, then what
follows the last slash. -/
def parentPath (path : List Char) : List Char :=
  let trimmed := match Text.dropSuffix? ['/'] path with
    | some before => if before.contains '/' then before else path
    | none => path
  dropLastSegment trimmed

/-- The path after one more segment; `slash` tells whether a slash ends it. -/
def addSegment (path segment : List Char) (slash : Bool) : List Char :=
  let closed (p : List Char) : List Char := if p.getLast? = some '/' then p else p ++ ['/']
  if isDoubleDot segment then
    if slash then closed (parentPath path) else parentPath path
  else if isSingleDot segment then closed path
  else path ++ segment ++ (if slash then ['/'] else [])

/-- Reads segments onto a path; `segment` is what has been read of the segment at hand. -/
def pathFrom (k : SchemeKind) (path segment : List Char) : List Char → List Char
  | [] => addSegment path (escape pathSet segment) false
  | c :: rest =>
    if c = '/' ∨ (k.takesBackslash ∧ c = '\\') then
      pathFrom k (addSegment path (escape pathSet segment) true) [] rest
    else pathFrom k path (segment ++ [c]) rest

/-- The text up to a question mark or hash sign, and the rest. -/
def takePath (s : List Char) : List Char × List Char :=
  let inside (c : Char) : Bool := !(c == '?' || c == '#')
  (s.takeWhile inside, s.dropWhile inside)

/-- Reads the path after an authority. -/
def hierarchicalPath (k : SchemeKind) (s : List Char) : List Char :=
  match k with
  | .plain =>
    match s with
    | [] => []
    | '/' :: _ => pathFrom k [] [] s
    | _ => pathFrom k ['/'] [] s
  | _ =>
    match s with
    | '/' :: rest => pathFrom k ['/'] [] rest
    | '\\' :: rest => pathFrom k ['/'] [] rest
    | _ => pathFrom k ['/'] [] s

/-- The path of a file URL: one slash in front. -/
def filePath (s : List Char) : List Char :=
  '/' :: (pathFrom .file ['/'] [] s).dropWhile (· == '/')

/-- Query and fragment of the rest of a URL, which is empty or starts with their sign. -/
def takeQuery (k : SchemeKind) (s : List Char) : Option (List Char) × Option (List Char) :=
  let set := if k = .plain then querySet else specialQuerySet
  match s with
  | '?' :: rest =>
    match Text.splitOnce ['#'] rest with
    | some (query, fragment) => (some (escape set query), some (escape fragmentSet fragment))
    | none => (some (escape set rest), none)
  | '#' :: rest => (none, some (escape fragmentSet rest))
  | _ => (none, none)

/-- Reads a host as a scheme of a kind asks for. -/
def readHost (k : SchemeKind) (s : List Char) : Except Flaw Host :=
  if k = .plain then opaqueHost s else specialHost s

/-- Reads the port that may follow a host, and gives the text behind it. -/
def readPort (host : Host) (scheme s : List Char) : Except Flaw (Option Nat × List Char) :=
  match s with
  | ':' :: after => if host = .none then .error .emptyHost else takePort scheme after
  | _ => .ok (none, s)

/-- Reads what follows the two slashes. -/
def afterSlashes (k : SchemeKind) (scheme s : List Char) : Except Flaw Url := do
  let info ← takeUserinfo k s
  let n := hostLength k false info.rest
  let hostText := info.rest.take n
  if k = .special ∧ hostText.isEmpty then .error .emptyHost
  else
    let host ← readHost k hostText
    let (port, rest) ← readPort host scheme (info.rest.drop n)
    if host = .none ∧ info.given then .error .emptyHost
    else
      let (pathText, rest) := takePath rest
      let (query, fragment) := takeQuery k rest
      .ok { scheme, hasAuthority := true, username := info.username, password := info.password,
            host, port, path := hierarchicalPath k pathText, query, fragment }

/-- Reads the host of a file URL behind two slashes, if there are two, and gives the text behind it. -/
def takeFileHost (s : List Char) : Except Flaw (Host × List Char) :=
  let slash (c : Char) : Bool := c == '/' || c == '\\'
  match s with
  | a :: b :: rest =>
    if slash a && slash b then
      let hostText := rest.takeWhile fun c => !endsAuthority .file c
      if hostText.isEmpty then .ok (.none, rest)
      else do
        let host ← specialHost hostText
        .ok (if host = .name "localhost".toList then .none else host, rest.drop hostText.length)
    else .ok (.none, s)
  | _ => .ok (.none, s)

/-- Reads what follows the scheme of a file URL. -/
def afterFile (s : List Char) : Except Flaw Url := do
  let (host, rest) ← takeFileHost s
  let (pathText, rest) := takePath rest
  let (query, fragment) := takeQuery .file rest
  .ok { scheme := "file".toList, hasAuthority := true, username := [], password := none, host,
        port := none, path := filePath pathText, query, fragment }

/-- Reads what follows a scheme that is not special when no two slashes do. -/
def afterPlain (scheme s : List Char) : Url :=
  let (pathText, rest) := takePath s
  let (query, fragment) := takeQuery .plain rest
  let path := match pathText with
    | '/' :: _ => pathFrom .plain [] [] pathText
    | _ => escape [] pathText
  { scheme, hasAuthority := false, username := [], password := none, host := .none, port := none,
    path, query, fragment }

/-- Reads a URL. -/
def parse (s : List Char) : Except Flaw Url :=
  match takeScheme? (clean s) with
  | none => .error .noScheme
  | some (scheme, rest) =>
    match schemeKind scheme with
    | .file => afterFile rest
    | .special => afterSlashes .special scheme (rest.dropWhile fun c => c == '/' || c == '\\')
    | .plain =>
      match rest with
      | '/' :: '/' :: rest => afterSlashes .plain scheme rest
      | _ => .ok (afterPlain scheme rest)

/-- The text of a URL with three stars for its password. A text that is not a URL, or has no
password, is left as it is. -/
def maskPassword (s : List Char) : List Char :=
  match parse s with
  | .ok u =>
    if u.password.isSome then
      match u.withPassword? ['*', '*', '*'] with
      | some masked => masked.text
      | none => s
    else s
  | .error _ => s

/-- The scheme in front of the first colon, in lower case. -/
def schemeOf? (s : List Char) : Option (List Char) :=
  match Text.splitOnce [':'] s with
  | some (scheme, _) =>
    if scheme.isEmpty || !scheme.all isSchemePart then none else some (scheme.map Char.toLower)
  | none => none

end Url
end SqlCells
