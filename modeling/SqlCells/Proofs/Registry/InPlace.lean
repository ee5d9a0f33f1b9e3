import SqlCells.Proofs.Effects
import SqlCells.Registry

/-!
# Changes in place

The operations on open connections give them anew when they succeed, and have nothing else to give when
they fail.  Here the same operations are written on connections that are changed in place, one field at a
time, where whatever was changed before a fault would stay changed.  Each comes to the same: all lookups
and openings that can fail come before the first change.
-/

namespace SqlCells
namespace Registry

open Effects

/-- A change to the open connections in place: it ends in a value or a fault, and what it changed before
stays changed. -/
abbrev Change := ExceptT Fault (StateM Desk)

namespace Change

/-! ## The operations -/

/-- The key that a name stands for. -/
def findKey (name : String) (notFound : Registry → Fault) : Change String := do
  let r := (← get).registry
  match r.keyOf? name with
  | some key => return key
  | none => throw (notFound r)

/-- Makes a connection current and gives its key. -/
def makeCurrent (key : String) : Change String := do
  modify fun d => { d with registry := { d.registry with current := some key } }
  return key

/-- Opens a client. -/
def openClient (url : String) (options : OpenOptions) : Change ClientId := do
  let client ← (← get).registry.openClient url options
  modifyGet fun d => ((d.clients.add client).1, { d with clients := (d.clients.add client).2 })

/-- Registers a client and makes its connection current. -/
def register (id : ClientId) (aliasName : Option String) : Change String := do
  let c := Connection.ofClient (← get).clients id aliasName
  modify fun d => { d with registry := d.registry.insert c }
  makeCurrent c.key

/-- Makes the target current and gives its key. -/
def select (target : Target) (options : OpenOptions) : Change String := do
  match target with
  | .key name =>
    let key ← findKey name fun r => .keyNotOpen name (r.advice false (some name))
    makeCurrent key
  | .client id => register id options.aliasName
  | .connectString url =>
    match (← get).registry.roughMatch? url with
    | some c => makeCurrent c.key
    | none =>
      match options.creator with
      | some id => register id options.aliasName
      | none =>
        let id ← openClient url options
        register id options.aliasName

/-- Finds the connection of a command that names none. -/
def selectDefault (showListing : Bool) (databaseUrl : Option String) (options : OpenOptions) :
    Change (Option String) := do
  let r := (← get).registry
  if !r.connections.isEmpty then
    return if showListing then some r.listing else none
  match databaseUrl with
  | some url =>
    let _ ← select (.connectString url) options
    return none
  | none => throw r.noConnection

/-- Closes the client of a connection. -/
def closeClient (c : Connection) : Change Unit :=
  modify fun d => { d with clients := Registry.closeClient d.clients c }

/-- Takes out the connection that a name stands for and closes its client. -/
def close (name : String) : Change Unit := do
  let key ← findKey name fun r => .closeNotFound r.keys
  let r := (← get).registry
  modify fun d =>
    { d with registry :=
      { d.registry with connections := r.connections.filter fun c => c.key != key } }
  if let some c := r.find? key then closeClient c
  modify fun d =>
    { d with registry :=
      { d.registry with
        current := if d.registry.current = some key then none else d.registry.current } }

/-- Takes out all connections and closes their clients. -/
def closeAll : Change Unit := do
  let connections := (← get).registry.connections
  modify fun d => { d with registry := { d.registry with connections := [] } }
  forM connections closeClient
  modify fun d => { d with registry := { d.registry with current := none } }

/-! ## They come to the same -/

/-- What an operation that gives the connections anew does in place: they are replaced if it succeeds,
and stay if it fails. -/
def replacing {α : Type} (operation : Desk → Except Fault (α × Desk)) : Change α := fun d =>
  match operation d with
  | .ok (a, d') => (.ok a, d')
  | .error f => (.error f, d)

section Run

variable {d : Desk}

theorem run_replacing {α : Type} (operation : Desk → Except Fault (α × Desk)) :
    (replacing operation).run.run d = match operation d with
      | .ok (a, d') => (.ok a, d')
      | .error f => (.error f, d) :=
  rfl

theorem run_modify (change : Desk → Desk) :
    (modify change : Change Unit).run.run d = (.ok (), change d) :=
  rfl

theorem run_findKey {name : String} {notFound : Registry → Fault} :
    (findKey name notFound).run.run d = match d.registry.keyOf? name with
      | some key => (.ok key, d)
      | none => (.error (notFound d.registry), d) := by
  unfold findKey
  rw [run_bind, run_get]
  dsimp only
  cases d.registry.keyOf? name with
  | some key => rfl
  | none => rfl

theorem run_openClient {url : String} {options : OpenOptions} :
    (openClient url options).run.run d = match d.registry.openClient url options with
      | .ok client => (.ok (d.clients.add client).1, ⟨d.registry, (d.clients.add client).2⟩)
      | .error f => (.error f, d) := by
  unfold openClient
  rw [run_bind, run_get]
  dsimp only
  rw [run_bind, run_lift]
  cases d.registry.openClient url options with
  | ok client => rfl
  | error f => rfl

theorem run_closeClient {c : Connection} :
    (closeClient c).run.run d = (.ok (), ⟨d.registry, Registry.closeClient d.clients c⟩) :=
  rfl

theorem run_forM_closeClient {connections : List Connection} :
    (forM connections closeClient).run.run d =
      (.ok (), ⟨d.registry, connections.foldl Registry.closeClient d.clients⟩) := by
  induction connections generalizing d with
  | nil => rfl
  | cons c rest ih =>
    rw [List.forM_cons, run_bind, run_closeClient]
    exact ih

end Run

theorem select_eq (target : Target) (options : OpenOptions) :
    select target options = replacing (Registry.select target options) := by
  funext d
  change (select target options).run.run d = (replacing (Registry.select target options)).run.run d
  rw [run_replacing]
  unfold select Registry.select
  cases target with
  | key name =>
    dsimp only
    rw [run_bind, run_findKey]
    cases d.registry.keyOf? name with
    | some key => rfl
    | none => rfl
  | client id => rfl
  | connectString url =>
    dsimp only
    rw [run_bind, run_get]
    dsimp only
    cases d.registry.roughMatch? url with
    | some c => rfl
    | none =>
      cases options.creator with
      | some id => rfl
      | none =>
        dsimp only
        rw [run_bind, run_openClient]
        cases d.registry.openClient url options with
        | ok client => rfl
        | error f => rfl

theorem selectDefault_eq (showListing : Bool) (databaseUrl : Option String)
    (options : OpenOptions) :
    selectDefault showListing databaseUrl options =
      replacing (Registry.selectDefault showListing databaseUrl options) := by
  funext d
  change (selectDefault showListing databaseUrl options).run.run d =
    (replacing (Registry.selectDefault showListing databaseUrl options)).run.run d
  rw [run_replacing]
  unfold selectDefault Registry.selectDefault
  rw [run_bind, run_get]
  dsimp only
  split
  · rfl
  · cases databaseUrl with
    | none => rfl
    | some url =>
      -- The default is selected like any other string, and fails like it.
      dsimp only
      rw [select_eq, run_bind, run_replacing]
      cases Registry.select (.connectString url) options d with
      | ok selected => rfl
      | error f => rfl

theorem close_eq (name : String) :
    close name = replacing fun d => (Registry.close name d).map fun d => ((), d) := by
  funext d
  change (close name).run.run d =
    (replacing fun d => (Registry.close name d).map fun d => ((), d)).run.run d
  rw [run_replacing]
  unfold close Registry.close
  rw [run_bind, run_findKey]
  dsimp only
  cases d.registry.keyOf? name with
  | none => rfl
  | some key =>
    dsimp only
    rw [run_bind, run_get]
    dsimp only
    cases d.registry.find? key with
    | none => rfl
    | some c => rfl

theorem closeAll_eq : closeAll = replacing fun d => .ok ((), Registry.closeAll d) := by
  funext d
  change closeAll.run.run d = (replacing fun d => .ok ((), Registry.closeAll d)).run.run d
  rw [run_replacing]
  unfold closeAll
  rw [run_bind, run_get]
  dsimp only
  rw [run_bind, run_modify]
  dsimp only
  rw [run_bind, run_forM_closeClient]
  rfl

end Change
end Registry
end SqlCells
