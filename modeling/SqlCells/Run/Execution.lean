import SqlCells.Run.MetaCommand
import SqlCells.Sql.Statement
import SqlCells.Config

/-!
# Execution

A payload is split into statements, which are run one after another on one client; the result is that
of the last.  Explicit transactions are refused.  With autocommit on, a driver that cannot switch to
it gets a commit after each statement.  A driver that can build frames runs everything on a raw
session.
-/

namespace SqlCells

/-- What a payload produced. -/
inductive Output where
  | status (text : String)
  | rows (rs : ResultSet)
  | frame (f : Frame)
  deriving DecidableEq, Repr

/-- A payload's product and the messages printed on the way. -/
structure Execution where
  output : Output
  notices : List String
  deriving DecidableEq, Repr

namespace Execution

/-- What a run goes by, the payload aside. -/
structure Context where
  settings : Settings
  /-- The name shown for the connection. -/
  name : String
  /-- Whether backslash commands can be answered. -/
  hasMeta : Bool

/-- What a run has come to. -/
structure Progress where
  notices : List String := []
  /-- Whether statements are committed by hand; `none` before it has been decided. -/
  manualCommit : Option Bool := none
  last : Option RawResult := none

/-- The message about the number of changed rows. -/
def rowcount (affected : Option Nat) : String :=
  match affected with
  | some n => toString n ++ " rows affected."
  | none => "Done."

/-- The message when a commit fails. -/
def commitUnsupported : String :=
  "The database does not support the COMMIT command"

/-- Decides, once a run, whether statements are committed by hand: only when autocommit is on and
the driver cannot switch to it. -/
def decideCommit (settings : Settings) (p : Progress) : Talk Progress := do
  if p.manualCommit.isSome then return p
  let dialect ← Talk.dialect
  if dialect.caps.disablesAutocommit then
    let driver := dialect.driver.getD dialect.name
    let notice := "Autocommit is not supported for " ++ driver ++ ", thus is automatically disabled"
    return { p with notices := p.notices ++ [notice], manualCommit := some false }
  else if settings.autocommit then
    let switched ← Talk.attempt (Talk.setAutocommit true)
    return { p with manualCommit := some (!switched.isOk) }
  else return { p with manualCommit := some false }

/-- Commits by hand where that was decided. A commit that fails is only reported. -/
def commitAfter (settings : Settings) (p : Progress) : Talk Progress := do
  let dialect ← Talk.dialect
  if settings.autocommit && !dialect.caps.rejectsCommit && p.manualCommit == some true then
    match ← Talk.attempt Talk.commit with
    | .ok () => return p
    | .error _ => return { p with notices := p.notices ++ [commitUnsupported] }
  else return p

/-- Runs one statement. -/
def runStatement (ctx : Context) (p : Progress) (statement : List Char) : Talk Progress := do
  let dialect ← Talk.dialect
  if Sql.isMetaCommand statement && dialect.caps.metaCommands then
    if ctx.hasMeta then
      let result ← MetaCommand.run statement
      return { p with last := some result }
    else throw .metaCommandsUnavailable
  else
    let p ← decideCommit ctx.settings p
    let result ← Talk.execute (String.ofList statement) ctx.settings.fetchLimit
    let p ← commitAfter ctx.settings p
    let notices :=
      if ctx.settings.feedback && !result.returnsRows then [rowcount result.affected] else []
    return { p with notices := p.notices ++ notices, last := some result }

/-- Runs statements in order up to the first that fails. -/
def runStatements (ctx : Context) (p : Progress) : List (List Char) → Talk Progress
  | [] => pure p
  | s :: rest => do
    let p ← runStatement ctx p s
    runStatements ctx p rest

/-- Runs statements on a raw session up to the first that fails. -/
def runRaw : List (List Char) → Talk Unit
  | [] => pure ()
  | s :: rest => do
    Talk.rawExecute (String.ofList s)
    runRaw rest

/-- Runs statements on a raw session, which is closed whatever happens, and builds the frame of the
last. -/
def runNative (statements : List (List Char)) : Talk Execution := do
  Talk.openRaw
  let outcome ← Talk.attempt do
    runRaw statements
    Talk.rawFetch
  let closed ← Talk.attempt Talk.rawClose
  let frame ← outcome
  closed
  return ⟨.frame frame, []⟩

/-- The product of the last statement's answer. -/
def outputOf (settings : Settings) (raw : RawResult) : Output :=
  let rs := ResultSet.ofRaw raw settings.fetchLimit
  if settings.autoframe then .frame rs.toFrame else .rows rs

/-- Runs a payload. -/
def run (ctx : Context) (payload : List Char) : Talk Execution := do
  let connected : Execution := ⟨.status ("Connected: " ++ ctx.name), []⟩
  if Text.isAllBlank payload then return connected
  let statements := Sql.splitStatements payload
  if statements.isEmpty then return connected
  if statements.any Sql.opensTransaction then throw .transactionsUnsupported
  let dialect ← Talk.dialect
  if ctx.settings.autoframe && dialect.caps.nativeFrames then runNative statements
  else
    let p ← runStatements ctx {} statements
    return ⟨outputOf ctx.settings (p.last.getD {}), p.notices⟩

end Execution
end SqlCells
