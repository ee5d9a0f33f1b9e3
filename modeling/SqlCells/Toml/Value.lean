import SqlCells.Number.Binary64

/-!
# TOML values

The values of a configuration file, and how the lines of a file come together into one table: a table
may be named by only one header, and a key may be given only one value.
-/

namespace SqlCells

/-- A value of a configuration file. -/
inductive Toml where
  | text (s : String)
  | int (i : Int64)
  | float (x : Binary64)
  | bool (b : Bool)
  /-- A date, a time, or both. -/
  | moment
  | array (items : List Toml)
  | table (entries : List (String × Toml))
  deriving Repr

namespace Toml

/-- A line of a file, as far as it says something. -/
inductive Line where
  /-- A header in single brackets. -/
  | header (path : List String)
  /-- A header in double brackets: one more element of an array of tables. -/
  | element (path : List String)
  /-- A value for a key, which may lead through tables. -/
  | entry (path : List String) (key : String) (value : Toml)
  deriving Repr

/-- A table in the making. -/
inductive Node where
  /-- A finished value. -/
  | leaf (value : Toml)
  /-- A table. It is implicit as long as no header names it, and dotted if a dotted key made it. -/
  | table (implicit dotted : Bool) (entries : List (String × Node))
  /-- An array of tables. -/
  | series (items : List Node)

namespace Node

/-- A table that a header has just named. -/
def fresh : Node :=
  .table false false []

/-- The entries with another value for a key that is there. -/
def replace (entries : List (String × Node)) (key : String) (node : Node) :
    List (String × Node) :=
  entries.map fun (k, n) => if k = key then (k, node) else (k, n)

/-- Changes the table that a path leads to. Tables that are missing are made on the way; of an array
of tables the last one is meant. A dotted key leads only through tables that no header names. -/
def descend (dotted : Bool) (change : Node → Option Node) : (path : List String) → Node → Option Node
  | [], node => change node
  | key :: path, .table i d entries =>
    match entries.lookup key with
    | none => do
      let child ← descend dotted change path (.table true dotted [])
      return .table i d (entries ++ [(key, child)])
    | some (.table ci cd children) =>
      if dotted && !ci then none
      else do
        let child ← descend dotted change path (.table ci cd children)
        return .table i d (replace entries key child)
    | some (.series items) => do
      let child ← descend dotted change path (← items.getLast?)
      return .table i d (replace entries key (.series (items.dropLast ++ [child])))
    | some (.leaf _) => none
  | _ :: _, _ => none

/-- Names a table by a header: it is made, or stops being implicit. -/
def nameTable (key : String) : Node → Option Node
  | .table i d entries =>
    match entries.lookup key with
    | none => some (.table i d (entries ++ [(key, fresh)]))
    | some (.table true false children) =>
      some (.table i d (replace entries key (.table false false children)))
    | some _ => none
  | _ => none

/-- Adds one more table to an array of tables. -/
def addElement (key : String) : Node → Option Node
  | .table i d entries =>
    match entries.lookup key with
    | none => some (.table i d (entries ++ [(key, .series [fresh])]))
    | some (.series items) =>
      some (.table i d (replace entries key (.series (items ++ [fresh]))))
    | some _ => none
  | _ => none

/-- Gives a key its value. A table that dotted keys made takes values from dotted keys only, and any
other table from plain keys only. -/
def setKey (plain : Bool) (key : String) (value : Toml) : Node → Option Node
  | .table i d entries =>
    if d == plain || (entries.lookup key).isSome then none
    else some (.table i d (entries ++ [(key, .leaf value)]))
  | _ => none

/-- Gives the key at the end of a path its value. -/
def setPath (path : List String) (key : String) (value : Toml) (node : Node) : Option Node :=
  descend true (setKey path.isEmpty key value) path node

mutual

/-- The value that has been made. -/
def value : Node → Toml
  | .leaf v => v
  | .table _ _ entries => .table (entryValues entries)
  | .series items => .array (itemValues items)

/-- The values of a table's entries. -/
def entryValues : List (String × Node) → List (String × Toml)
  | [] => []
  | (key, node) :: rest => (key, node.value) :: entryValues rest

/-- The values of an array's tables. -/
def itemValues : List Node → List Toml
  | [] => []
  | node :: rest => node.value :: itemValues rest

end

end Node

/-- A file in the making: what has been read, and the table that entries go to. -/
structure Draft where
  root : Node := .fresh
  here : List String := []

/-- Takes one more line. -/
def Draft.add (d : Draft) : Line → Option Draft
  | .header path => do
    let root ← Node.descend false (Node.nameTable (← path.getLast?)) path.dropLast d.root
    return ⟨root, path⟩
  | .element path => do
    let root ← Node.descend false (Node.addElement (← path.getLast?)) path.dropLast d.root
    return ⟨root, path⟩
  | .entry path key value => do
    let root ← Node.descend false (Node.setPath path key value) d.here d.root
    return { d with root }

/-- The table that the lines of a file describe. -/
def ofLines? (lines : List Line) : Option Toml :=
  (lines.foldlM Draft.add {}).map fun d => d.root.value

/-- The table in braces that its entries describe. -/
def ofEntries? (entries : List (List String × String × Toml)) : Option Toml :=
  (entries.foldlM (fun n (path, key, v) => Node.setPath path key v n) Node.fresh).map Node.value

end Toml
end SqlCells
