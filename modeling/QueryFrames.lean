import QueryFrames.CommandLine.Arguments
import QueryFrames.CommandLine.Run
import QueryFrames.CommandLine.Snapshot
import QueryFrames.Dialect
import QueryFrames.Frame.Basic
import QueryFrames.Frame.ColumnSplit
import QueryFrames.Frame.Error
import QueryFrames.Frame.Fragment
import QueryFrames.Frame.Statement
import QueryFrames.Json.Basic
import QueryFrames.Json.Decode
import QueryFrames.Json.NumberText
import QueryFrames.Json.Source
import QueryFrames.Json.Writer
import QueryFrames.Keyed
import QueryFrames.Main
import QueryFrames.Number.Binary64
import QueryFrames.Number.Shortest
import QueryFrames.Schema.Basic
import QueryFrames.Schema.Json
import QueryFrames.Schema.Tree
import QueryFrames.Session.Alias
import QueryFrames.Session.Basic
import QueryFrames.Session.Canned
import QueryFrames.Session.Count
import QueryFrames.Session.Execution
import QueryFrames.Session.Inspection
import QueryFrames.Session.Operation
import QueryFrames.Session.Views
import QueryFrames.Session.Workspace
import QueryFrames.Settings.Basic
import QueryFrames.Settings.Error
import QueryFrames.Surroundings.Basic
import QueryFrames.Surroundings.Environment
import QueryFrames.Surroundings.FileTree
import QueryFrames.Text.Alphanumeric
import QueryFrames.Text.Blank
import QueryFrames.Text.Inspected
import QueryFrames.Text.Layout
import QueryFrames.Text.LowerCase
import QueryFrames.Text.Quotes
import QueryFrames.Text.Ranges
import QueryFrames.Toml.Basic
import QueryFrames.Toml.Document
import QueryFrames.Toml.Scalar
import QueryFrames.Toml.Text
import QueryFrames.Worker.Client
import QueryFrames.Worker.Conversation
import QueryFrames.Worker.Error
import QueryFrames.Worker.Message
import QueryFrames.Worker.Output
import QueryFrames.Worker.Script
import QueryFrames.Proofs.Change
import QueryFrames.Proofs.Dedup
import QueryFrames.Proofs.Lineage
import QueryFrames.Proofs.Flattening
import QueryFrames.Proofs.Union
import QueryFrames.Proofs.Freshness
import QueryFrames.Proofs.Literals
import QueryFrames.Proofs.Requests
import QueryFrames.Proofs.Correlation
import QueryFrames.Proofs.Outstanding
import QueryFrames.Proofs.WithClause
import QueryFrames.Proofs.Quoting
import QueryFrames.Proofs.Layout
import QueryFrames.Proofs.Submissions
import QueryFrames.Proofs.Trace
import QueryFrames.Proofs.Shapes
import QueryFrames.Proofs.Ancestry
import QueryFrames.Proofs.Registrations
import QueryFrames.Proofs.Isolation
import QueryFrames.Proofs.Framing
import QueryFrames.Proofs.SchemaText
import QueryFrames.Proofs.Refusals
import QueryFrames.Proofs.Reconciliation
import QueryFrames.Proofs.CaseFolding
import QueryFrames.Proofs.Expansion
import QueryFrames.Proofs.OutsideQuotes
import QueryFrames.Proofs.Paths
import QueryFrames.Proofs.SelectLists
import QueryFrames.Proofs.FirstPlaces
import QueryFrames.Proofs.SchemaTree
import QueryFrames.Proofs.RowCounts
import QueryFrames.Proofs.QueryFiles
import QueryFrames.Proofs.Precedence
import QueryFrames.Proofs.Precedence
