import SqlCells.Command.Parse
import SqlCells.Proofs.Effects

/-!
# What a command is put together from

A command is read in steps, each of which may refuse it: its header, the text that the header and the body
make up, the parts of that text, the connection, the SQL, and the arguments of the connection.  A command that
has been read is put together from the outcomes of these steps, and from nothing else.
-/

namespace SqlCells
namespace Command

open Effects

variable {ctx : Context} {header body : String} {p : Parsed}

/-- The parts that the text of a command is read as. -/
def cellOf (ctx : Context) (args : Args) (body : String) : Except Fault CellParts := do
  let text ← commandText ctx args (if (namedConnection? ctx args).isSome then [] else args.line) body
  parseCell ctx.env ctx.config text.toList

/-- The SQL of a cell with its placeholders replaced. -/
def expanded (ctx : Context) (parts : CellParts) : String :=
  String.ofList (expandTemplate (fun name => ctx.scope.text? ctx.clients (String.ofList name)) parts.sql)

/-- Whether a command is put together from the arguments of its header and the parts of its cell. -/
structure Assembled (ctx : Context) (header body : String) (parts : CellParts) (p : Parsed) : Prop where
  args : Args.parse header = .ok p.args
  cell : cellOf ctx p.args body = .ok parts
  connection : chooseConnection ctx p.args (namedConnection? ctx p.args) parts = .ok p.connection
  sqlOriginal : p.sqlOriginal = expanded ctx parts
  sql : compose ctx p.args p.sqlOriginal = .ok p.sql
  arguments : connectArguments p.args = .ok p.arguments
  resultVar : p.resultVar = parts.resultVar.map String.ofList
  returnsResult : p.returnsResult = parts.returnsResult

theorem parse_eq_ok_iff : parse ctx header body = .ok p ↔ ∃ parts, Assembled ctx header body parts p := by
  unfold parse
  constructor
  · intro hparse
    obtain ⟨args, hargs, hparse⟩ := of_bind_eq_ok hparse
    obtain ⟨text, htext, hparse⟩ := of_bind_eq_ok hparse
    obtain ⟨parts, hparts, hparse⟩ := of_bind_eq_ok hparse
    obtain ⟨connection, hconnection, hparse⟩ := of_bind_eq_ok hparse
    obtain ⟨sql, hsql, hparse⟩ := of_bind_eq_ok hparse
    obtain ⟨arguments, harguments, hparse⟩ := of_bind_eq_ok hparse
    cases hparse
    refine ⟨parts, hargs, ?_, hconnection, rfl, hsql, harguments, rfl, rfl⟩
    unfold cellOf
    rw [htext, ok_bind, hparts]
  · rintro ⟨parts, h⟩
    obtain ⟨text, htext, hparts⟩ := of_bind_eq_ok h.cell
    have hsql : compose ctx p.args (expanded ctx parts) = .ok p.sql := h.sqlOriginal ▸ h.sql
    rw [h.args, ok_bind]
    dsimp only
    rw [htext, ok_bind, hparts, ok_bind, h.connection, ok_bind]
    change (compose ctx p.args (expanded ctx parts) >>= _) = _
    rw [hsql, ok_bind, h.arguments, ok_bind, ← h.resultVar, ← h.returnsResult]
    change Except.ok { p with sqlOriginal := expanded ctx parts } = _
    rw [← h.sqlOriginal]

end Command
end SqlCells
