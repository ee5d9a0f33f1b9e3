import SqlCells.Data.ResultSet
import SqlCells.Database.Dialect

/-!
# Clients

A client is one open connection to a database: its dialect, its URL, how its driver behaves, and the
calls made on it so far.  A driver's answer may depend on the calls before, and on nothing else.
Clients that several parts of a session share are kept in a table and named by their number.
-/

namespace SqlCells

/-- A call that was made on a client. -/
inductive Call where
  | execute (sql : String) (limit : Option Nat)
  | setAutocommit (enabled : Bool)
  /-- A commit, and whether the driver accepted it. -/
  | commit (accepted : Bool)
  | close
  | openRaw
  | rawExecute (sql : String)
  | rawFetch
  | rawClose
  deriving DecidableEq, Repr

/-- How a driver answers each call, given the calls made before it. -/
structure Driver where
  /-- Runs one statement and fetches at most so many rows. -/
  execute : List Call → String → Option Nat → Except Fault RawResult
  setAutocommit : List Call → Bool → Except Fault Unit
  commit : List Call → Except Fault Unit
  close : List Call → Except Fault Unit
  /-- Opens a session that can build frames itself. -/
  openRaw : List Call → Except Fault Unit
  rawExecute : List Call → String → Except Fault Unit
  /-- Builds the frame of the last statement run on the raw session. -/
  rawFetch : List Call → Except Fault Frame
  rawClose : List Call → Except Fault Unit

/-- An open connection. -/
structure Client where
  dialect : Dialect
  url : String
  driver : Driver
  /-- The calls made so far, oldest first. -/
  calls : List Call := []

/-- A conversation with one client: it ends in a value or a fault, and the calls made are kept in
either case. -/
abbrev Talk := ExceptT Fault (StateM Client)

namespace Talk

/-- Makes a call: the driver answers, and the call is noted with what is known of the answer. -/
def call {α : Type} (answer : Client → Except Fault α) (note : Except Fault α → Call) : Talk α :=
  fun c =>
    let result := answer c
    (result, { c with calls := c.calls ++ [note result] })

/-- The dialect of the client. -/
def dialect : Talk Dialect :=
  fun c => (.ok c.dialect, c)

/-- Runs one statement and fetches at most so many rows. -/
def execute (sql : String) (limit : Option Nat) : Talk RawResult :=
  call (fun c => c.driver.execute c.calls sql limit) fun _ => .execute sql limit

/-- Switches autocommit. -/
def setAutocommit (enabled : Bool) : Talk Unit :=
  call (fun c => c.driver.setAutocommit c.calls enabled) fun _ => .setAutocommit enabled

/-- Commits. -/
def commit : Talk Unit :=
  call (fun c => c.driver.commit c.calls) fun r => .commit r.isOk

/-- Closes the connection. -/
def close : Talk Unit :=
  call (fun c => c.driver.close c.calls) fun _ => .close

/-- Opens a raw session. -/
def openRaw : Talk Unit :=
  call (fun c => c.driver.openRaw c.calls) fun _ => .openRaw

/-- Runs one statement on the raw session. -/
def rawExecute (sql : String) : Talk Unit :=
  call (fun c => c.driver.rawExecute c.calls sql) fun _ => .rawExecute sql

/-- Builds the frame of the raw session's last statement. -/
def rawFetch : Talk Frame :=
  call (fun c => c.driver.rawFetch c.calls) fun _ => .rawFetch

/-- Closes the raw session. -/
def rawClose : Talk Unit :=
  call (fun c => c.driver.rawClose c.calls) fun _ => .rawClose

/-- The outcome of a conversation as a value: a fault does not end what follows. -/
def attempt {α : Type} (t : Talk α) : Talk (Except Fault α) :=
  fun c =>
    let (result, c) := t.run c
    (.ok result, c)

end Talk

/-! ## What a log of calls tells -/

/-- The statements run. -/
def Call.executed (calls : List Call) : List String :=
  calls.filterMap fun
    | .execute sql _ => some sql
    | _ => none

/-- The statements run on raw sessions. -/
def Call.rawExecuted (calls : List Call) : List String :=
  calls.filterMap fun
    | .rawExecute sql => some sql
    | _ => none

/-- The switches of autocommit. -/
def Call.autocommits (calls : List Call) : List Bool :=
  calls.filterMap fun
    | .setAutocommit enabled => some enabled
    | _ => none

/-- The number of accepted commits. -/
def Call.commits (calls : List Call) : Nat :=
  (calls.filter fun c => c == .commit true).length

/-- Whether the connection was closed. -/
def Call.closed (calls : List Call) : Bool :=
  calls.contains .close

/-- The number of raw sessions closed. -/
def Call.rawCloses (calls : List Call) : Nat :=
  (calls.filter fun c => c == .rawClose).length

/-! ## Tables of clients -/

/-- The number of a client in a table. -/
abbrev ClientId := Nat

/-- The clients of a session. -/
structure Clients where
  all : List Client := []

namespace Clients

/-- The client with a number. -/
def get? (cs : Clients) (id : ClientId) : Option Client :=
  cs.all[id]?

/-- The table with one more client, and the client's number. -/
def add (cs : Clients) (c : Client) : ClientId × Clients :=
  (cs.all.length, ⟨cs.all ++ [c]⟩)

/-- The URL of the client with a number. -/
def url (cs : Clients) (id : ClientId) : String :=
  match cs.get? id with
  | some c => c.url
  | none => ""

/-- The dialect of the client with a number. -/
def dialect (cs : Clients) (id : ClientId) : Dialect :=
  match cs.get? id with
  | some c => c.dialect
  | none => Dialect.ofName "" none

/-- Talks to the client with a number; `otherwise` is the outcome when there is none. -/
def talk {α : Type} (cs : Clients) (id : ClientId) (otherwise : Except Fault α) (t : Talk α) :
    Except Fault α × Clients :=
  match cs.get? id with
  | some c =>
    let (result, c) := t.run c
    (result, ⟨cs.all.set id c⟩)
  | none => (otherwise, cs)

end Clients
end SqlCells
