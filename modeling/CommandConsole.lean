import CommandConsole.Command.Signature
import CommandConsole.Command.Table
import CommandConsole.Console.Builtins
import CommandConsole.Console.Operations
import CommandConsole.Console.Setup
import CommandConsole.Console.World
import CommandConsole.Conversion.Catalogue
import CommandConsole.Conversion.Reader
import CommandConsole.Document.Dotenv
import CommandConsole.Document.Flatten
import CommandConsole.Document.Ini
import CommandConsole.Document.Json
import CommandConsole.Document.Toml
import CommandConsole.Editing.History
import CommandConsole.Editing.Suggestions
import CommandConsole.Failure
import CommandConsole.Line.Tokens
import CommandConsole.Command.Definition
import CommandConsole.Loading.Load
import CommandConsole.Main
import CommandConsole.Number.Decimal
import CommandConsole.Output.ConsoleLog
import CommandConsole.Output.Terminal
import CommandConsole.Output.VirtualTerminal
import CommandConsole.Proofs.Command.TableInvariant
import CommandConsole.Proofs.Console.AllOrNothing
import CommandConsole.Proofs.Console.Classification
import CommandConsole.Proofs.Line.Quoting
import CommandConsole.Settings.Config
import CommandConsole.Text.Case
import CommandConsole.Text.CodeSet
import CommandConsole.Text.Composition
import CommandConsole.Text.Quoted
import CommandConsole.Text.Split
import CommandConsole.Text.Utf8
import CommandConsole.Text.Word
import CommandConsole.Proofs.Command.Lookup
import CommandConsole.Proofs.Console.Keeping
import CommandConsole.Proofs.Console.Operating
import CommandConsole.Proofs.Console.EditingState
import CommandConsole.Proofs.Console.Propagation
import CommandConsole.Proofs.Program.Interaction
import CommandConsole.Proofs.Console.Browsing
import CommandConsole.Proofs.Editing.History
import CommandConsole.Proofs.Document.Faults
import CommandConsole.Proofs.Document.References
import CommandConsole.Proofs.Document.TomlFaults
import CommandConsole.Proofs.Settings.Troubles
import CommandConsole.Proofs.Console.Calmness
import CommandConsole.Proofs.Program.Turns
import CommandConsole.Proofs.Line.Lossless
import CommandConsole.Proofs.Console.RestOfLine
import CommandConsole.Proofs.Editing.Suggestions
import CommandConsole.Proofs.Entries
import CommandConsole.Proofs.Settings.Precedence
import CommandConsole.Proofs.Console.Composition
import CommandConsole.Proofs.Console.Permanence
import CommandConsole.Proofs.Session.Commands
import CommandConsole.Proofs.Session.Variables
import CommandConsole.Proofs.Console.Opening
import CommandConsole.Proofs.Console.Submission
import CommandConsole.Proofs.Output.EscapeSequences
import CommandConsole.Proofs.Document.Dotenv
import CommandConsole.Proofs.Document.Sections
import CommandConsole.Proofs.Settings.Validation
import CommandConsole.Proofs.Document.Flattening
import CommandConsole.Proofs.Command.Registration
import CommandConsole.Proofs.Loading.Growth
import CommandConsole.Proofs.Console.Remembering
import CommandConsole.Proofs.Number.Integer
import CommandConsole.Proofs.Conversion.Members
import CommandConsole.Proofs.Console.TruthValues
import CommandConsole.Proofs.Editing.Cursor
import CommandConsole.Proofs.Output.Connection
import CommandConsole.Proofs.Output.ConsoleLog
import CommandConsole.Proofs.Command.Normalization
