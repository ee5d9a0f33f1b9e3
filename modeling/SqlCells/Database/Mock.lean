import SqlCells.Database.Client

/-!
# Clients with canned answers

A stand-in for a database: it answers statements from a table, lets queries it does not know return
one row that names them, and accepts everything else.
-/

namespace SqlCells

/-- What a stand-in answers. -/
structure Mock where
  dialect : Dialect
  url : String
  /-- Answers by statement, blanks around it and closing semicolons dropped: a result or a driver's
  message. -/
  responses : List (String × Except String RawResult) := []
  failAutocommit : Bool := false
  /-- The message with which commits are refused. -/
  commitError : Option String := none

namespace Mock

/-- A stand-in for a dialect. -/
def ofDialect (d : Dialect) : Mock :=
  { dialect := d, url := "mock://" ++ d.label }

/-- A stand-in for the dialect that a URL names after `mock://`. -/
def ofUrl (url : String) : Mock :=
  let rest := (Text.dropPrefix? "mock://".toList url.toList).getD []
  let scheme := rest.takeWhile fun c => !(c == '/' || c == '?')
  let scheme := if scheme.isEmpty then "mock" else String.ofList scheme
  { ofDialect (Dialect.ofScheme scheme) with url }

/-- A statement as it is looked up. -/
def lookupForm (sql : String) : String :=
  String.ofList (Text.trim (Text.dropTailWhile (· == ';') (Text.trim sql.toList)))

/-- The stand-in with an answer for a statement, in place of an earlier one. -/
def respond (m : Mock) (sql : String) (answer : Except String RawResult) : Mock :=
  { m with responses := (lookupForm sql, answer) :: m.responses }

/-- The canned answer to a statement. -/
def response? (m : Mock) (sql : String) : Option (Except Fault RawResult) :=
  (m.responses.lookup (lookupForm sql)).map fun
    | .ok r => .ok r
    | .error message => .error (.driver message)

/-- The answer to a statement. -/
def answer (m : Mock) (sql : String) : Except Fault RawResult :=
  match m.response? sql with
  | some r => r
  | none =>
    if Text.startsWith (Text.upper (Text.trimStart sql.toList)) "SELECT".toList then
      .ok (.ofRows ["result"]
        [[.text ("Mock result for: " ++ String.ofList (Text.trim sql.toList))]])
    else .ok (.ofAffected 0)

/-- The answer to a statement on a raw session. -/
def rawAnswer (m : Mock) (sql : String) : Except Fault RawResult :=
  (m.response? sql).getD (.ok (.ofAffected 0))

/-- The result that a raw session holds after some calls: that of the last statement that succeeded
since the session was opened, unless it has been fetched. -/
def held (m : Mock) (calls : List Call) : RawResult :=
  calls.foldl (fun held call =>
    match call with
    | .openRaw | .rawFetch => {}
    | .rawExecute sql =>
      match m.rawAnswer sql with
      | .ok r => r
      | .error _ => held
    | _ => held) {}

/-- How the stand-in behaves. -/
def driver (m : Mock) : Driver where
  execute _ sql limit := (m.answer sql).map (RawResult.truncate limit)
  setAutocommit _ _ :=
    if m.failAutocommit then
      .error (.driver "driver does not support the AUTOCOMMIT execution option")
    else .ok ()
  commit _ :=
    match m.commitError with
    | some message => .error (.driver message)
    | none => .ok ()
  close _ := .ok ()
  openRaw _ :=
    if m.dialect.caps.nativeFrames then .ok ()
    else .error (.nativeFramesUnavailable m.dialect.label)
  rawExecute _ sql := (m.rawAnswer sql).map fun _ => ()
  rawFetch calls :=
    let raw := m.held calls
    .ok (Frame.ofRows raw.columns raw.rows)
  rawClose _ := .ok ()

/-- The stand-in as an open connection. -/
def client (m : Mock) : Client :=
  { dialect := m.dialect, url := m.url, driver := m.driver }

end Mock
end SqlCells
