import SqlCells.Text.Case
import SqlCells.Text.Words
import SqlCells.Text.Cut
import SqlCells.Text.Escaped
import SqlCells.Text.Distance
import SqlCells.Json.Parser
import SqlCells.Sql.Statement
import SqlCells.Sql.Normal.Statement
import SqlCells.Data.Table
import SqlCells.Data.Csv
import SqlCells.Command.Args
import SqlCells.Command.CellText
import SqlCells.Command.Parse
import SqlCells.Files
import SqlCells.Config.File
import SqlCells.Database.Dialect
import SqlCells.Database.Connect
import SqlCells.Snippets
import SqlCells.Variables
import SqlCells.Registry
import SqlCells.Run.Execution
import SqlCells.Run.Explain
import SqlCells.Run.Persist
import SqlCells.Script
import SqlCells.Session
import SqlCells.Program.Run
import SqlCells.Main
import SqlCells.Proofs.Session.Quoting
import SqlCells.Proofs.Session.Saving
import SqlCells.Proofs.Run.Transactions
import SqlCells.Proofs.Run.Calls
import SqlCells.Proofs.Run.Frames
import SqlCells.Proofs.Run.Readback
import SqlCells.Proofs.Run.Columns
import SqlCells.Proofs.Database.Arguments
import SqlCells.Proofs.Config.Sections
import SqlCells.Proofs.Run.Writes
import SqlCells.Proofs.Run.Patterns
import SqlCells.Proofs.Run.Commands
import SqlCells.Proofs.Command.Included
import SqlCells.Proofs.Number.Rounding
import SqlCells.Proofs.Snippets.Composition
import SqlCells.Proofs.Snippets.Agreement
import SqlCells.Proofs.Session.Resaving
import SqlCells.Proofs.Database.Clients
import SqlCells.Proofs.Registry.Displacement
import SqlCells.Proofs.Registry.Reuse
import SqlCells.Proofs.Session.Course
import SqlCells.Proofs.Database.Opening
import SqlCells.Proofs.Registry.Shown
import SqlCells.Proofs.Session.Bindings
import SqlCells.Proofs.Session.Passwords
import SqlCells.Proofs.Session.Refusal
import SqlCells.Proofs.Sql.Splitting
import SqlCells.Proofs.Sql.Blocks
import SqlCells.Proofs.Sql.Dropping
import SqlCells.Proofs.Data.Views
import SqlCells.Proofs.Data.Export
import SqlCells.Proofs.Data.Names
import SqlCells.Proofs.Snippets.Storing
import SqlCells.Proofs.Command.Spellings
import SqlCells.Proofs.Command.Placeholders
import SqlCells.Proofs.Script.Cells
import SqlCells.Proofs.Data.Table
import SqlCells.Proofs.Session.Frames
