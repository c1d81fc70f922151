import CallTree.Benchmark.Case
import CallTree.Benchmark.Dataset
import CallTree.Benchmark.Form
import CallTree.Benchmark.Gate
import CallTree.Benchmark.Live
import CallTree.Benchmark.Measure
import CallTree.Benchmark.Offline
import CallTree.Benchmark.Report
import CallTree.Benchmark.Runner
import CallTree.Code.Expr
import CallTree.Code.Field
import CallTree.Code.Gap
import CallTree.Code.Literal
import CallTree.Code.Number
import CallTree.Code.Operator
import CallTree.Code.Quoted
import CallTree.Code.Read
import CallTree.Code.Statement
import CallTree.Command.Arguments
import CallTree.Command.Documents
import CallTree.Command.Evaluate
import CallTree.Command.Help
import CallTree.Command.Program
import CallTree.Command.Release
import CallTree.Command.Run
import CallTree.Compile.Basic
import CallTree.Decimal.Binary
import CallTree.Decimal.Numeral
import CallTree.Decimal.Place
import CallTree.Decimal.Shortest
import CallTree.Described
import CallTree.Effect
import CallTree.Entries
import CallTree.Eval.Action
import CallTree.Eval.Basic
import CallTree.Eval.Context
import CallTree.Eval.Runs
import CallTree.Fault
import CallTree.Files.Folder
import CallTree.Files.Path
import CallTree.Json.Indent
import CallTree.Json.Read
import CallTree.Json.Write
import CallTree.Main
import CallTree.Model.Client
import CallTree.Model.Config
import CallTree.Model.Curated
import CallTree.Model.Generate
import CallTree.Model.Outline
import CallTree.Model.Prepared
import CallTree.Model.Prompt
import CallTree.Model.Response
import CallTree.Model.Transport
import CallTree.Notebook.Check
import CallTree.Proofs.Accepted
import CallTree.Proofs.Benchmarks
import CallTree.Proofs.Blanked
import CallTree.Proofs.Caching
import CallTree.Proofs.Calling
import CallTree.Proofs.Calls
import CallTree.Proofs.Coherence
import CallTree.Proofs.Collecting
import CallTree.Proofs.Contexts
import CallTree.Proofs.Conversations
import CallTree.Proofs.Criteria
import CallTree.Proofs.DataLines
import CallTree.Proofs.Decoding
import CallTree.Proofs.Definitions
import CallTree.Proofs.Discovery
import CallTree.Proofs.Effects
import CallTree.Proofs.Entries
import CallTree.Proofs.ExprReader
import CallTree.Proofs.FirstOrder
import CallTree.Proofs.FreeNames
import CallTree.Proofs.Gate
import CallTree.Proofs.Guarantees
import CallTree.Proofs.Lexing
import CallTree.Proofs.LineTexts
import CallTree.Proofs.ListOps
import CallTree.Proofs.Literals
import CallTree.Proofs.LogAndTrace
import CallTree.Proofs.LogLines
import CallTree.Proofs.LongNumerals
import CallTree.Proofs.Mentions
import CallTree.Proofs.Metadata
import CallTree.Proofs.Names
import CallTree.Proofs.Nodes
import CallTree.Proofs.Orders
import CallTree.Proofs.ParameterTypes
import CallTree.Proofs.Parts
import CallTree.Proofs.Pieces
import CallTree.Proofs.Placeholders
import CallTree.Proofs.Places
import CallTree.Proofs.Projection
import CallTree.Proofs.ReadBack
import CallTree.Proofs.ReadData
import CallTree.Proofs.Redaction
import CallTree.Proofs.Renaming
import CallTree.Proofs.Rules
import CallTree.Proofs.Runs
import CallTree.Proofs.Scanners
import CallTree.Proofs.Scopes
import CallTree.Proofs.Secrets
import CallTree.Proofs.Signatures
import CallTree.Proofs.Stored
import CallTree.Proofs.Streams
import CallTree.Proofs.Tags
import CallTree.Proofs.Tokens
import CallTree.Proofs.Traversals
import CallTree.Proofs.Verdicts
import CallTree.Proofs.Written
import CallTree.Proofs.Yields
import CallTree.Reference.Item
import CallTree.Reference.Public
import CallTree.Release.Check
import CallTree.Release.Smoke
import CallTree.Release.Tag
import CallTree.Report.Clock
import CallTree.Report.Event
import CallTree.Report.Redact
import CallTree.Sample.Atlas
import CallTree.Sample.Calculator
import CallTree.Sample.Datasets
import CallTree.Sample.GameStats
import CallTree.Sample.Programs
import CallTree.Text.Blank
import CallTree.Text.Boundary
import CallTree.Text.Case
import CallTree.Text.CharName
import CallTree.Text.CharName.Aliases
import CallTree.Text.CharName.Alphabets
import CallTree.Text.CharName.Ancient
import CallTree.Text.CharName.EastAsia
import CallTree.Text.CharName.Family
import CallTree.Text.CharName.Forms
import CallTree.Text.CharName.Notations
import CallTree.Text.CharName.Packed
import CallTree.Text.CharName.Pictures
import CallTree.Text.CharName.Syllabaries
import CallTree.Text.CharName.Symbols
import CallTree.Text.Digit
import CallTree.Text.Identifier
import CallTree.Text.Lines
import CallTree.Text.Newline
import CallTree.Text.Printable
import CallTree.Text.Search
import CallTree.Toml.Moment
import CallTree.Toml.Read
import CallTree.Toml.Scalar
import CallTree.Toml.Table
import CallTree.Tool.Builtin
import CallTree.Tool.Definition
import CallTree.Tool.Provider
import CallTree.Tool.Session
import CallTree.Tool.Toolbox
import CallTree.Tree.Basic
import CallTree.Tree.Check
import CallTree.Tree.Form
import CallTree.Tree.Leaves
import CallTree.Tree.Schema
import CallTree.Tree.Visit
import CallTree.Value.Arithmetic
import CallTree.Value.Basic
import CallTree.Value.Display
import CallTree.Value.Equal
