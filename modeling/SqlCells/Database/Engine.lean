import SqlCells.Database.Client

/-!
# Engines

Behind the URL of a database there is an engine.  It is not part of this library, and is given by what it
sends back.  The driver around it is: it reads what is sent up to a limit, words what goes wrong as its
kind of database does, and works in autocommit mode only.
-/

namespace SqlCells

namespace Engine

/-- A failure as an engine tells it. -/
structure Failure where
  message : String
  /-- Whether the database reports it; otherwise it is the way there that failed. -/
  reported : Bool := true
  detail : Option String := none
  hint : Option String := none

/-- A piece of what an engine sends back. -/
inductive Piece where
  /-- A statement is done and has changed some rows. -/
  | done (affected : Nat)
  /-- A row with the names of its columns. -/
  | row (columns : List String) (cells : Row)
  | failed (f : Failure)

end Engine

/-- A database behind a connection. What it sends may depend on the calls made on its client before. -/
structure Engine where
  /-- What is sent back for a text of statements. -/
  send : List Call → String → List Engine.Piece
  /-- The columns of a statement as it is described before it is run; none where that fails. -/
  columns : List Call → String → List String

namespace Engine

/-- How a kind of database words what goes wrong. -/
structure Wording where
  failure : Failure → String
  /-- Why autocommit cannot be switched off. -/
  autocommit : String

/-- The wording of SQLite. -/
def Wording.sqlite : Wording where
  failure := Failure.message
  autocommit := "SQLite sessions run in autocommit mode; the AUTOCOMMIT option cannot be turned off"

/-- The wording of Postgres, which puts details and hints on lines of their own. -/
def Wording.postgres : Wording where
  failure f :=
    let line (label : String) (text : Option String) : String :=
      match text with
      | some text => "\n  " ++ label ++ ": " ++ text
      | none => ""
    if f.reported then "ERROR: " ++ f.message ++ line "DETAIL" f.detail ++ line "HINT" f.hint
    else f.message
  autocommit := "pooled PostgreSQL sessions always run in autocommit mode"

/-- What has been read of an answer. -/
structure Answer where
  /-- The names that the first row came with. -/
  columns : Option (List String) := none
  rows : List Row := []
  affected : Option Nat := none

/-- Reads on to the end of what is sent, to a failure, or to the first row beyond the limit. -/
def Answer.read (limit : Option Nat) (a : Answer) : List Piece → Except Failure Answer
  | [] => .ok a
  | .done n :: rest => read limit { a with affected := some n } rest
  | .failed f :: _ => .error f
  | .row columns cells :: rest =>
    let a := { a with columns := a.columns.or (some columns) }
    if limit.any fun n => decide (n ≤ a.rows.length) then .ok a
    else read limit { a with rows := a.rows ++ [cells] } rest

/-- Runs a text of statements and fetches at most so many rows. Where no row is sent, the columns are
those of the statement's description. -/
def execute (e : Engine) (w : Wording) (calls : List Call) (sql : String) (limit : Option Nat) :
    Except Fault RawResult :=
  match Answer.read limit {} (e.send calls sql) with
  | .error f => .error (.driver (w.failure f))
  | .ok a =>
    let columns := a.columns.getD (e.columns calls sql)
    .ok { columns, rows := a.rows, affected := a.affected, returnsRows := !columns.isEmpty }

/-- The driver around an engine. It opens no session that can build frames. -/
def driver (e : Engine) (w : Wording) (d : Dialect) : Driver where
  execute := e.execute w
  setAutocommit _ enabled := if enabled then .ok () else .error (.driver w.autocommit)
  commit _ := .ok ()
  close _ := .ok ()
  openRaw _ := .error (.nativeFramesUnavailable d.label)
  rawExecute _ _ := .error (.nativeFramesUnavailable d.label)
  rawFetch _ := .error (.nativeFramesUnavailable d.label)
  rawClose _ := .ok ()

end Engine
end SqlCells
