import PassPlan.Backend.BringUp
import PassPlan.Backend.Registry
import PassPlan.Backend.Service
import PassPlan.Cache.Store
import PassPlan.Cli.App
import PassPlan.Cli.Command
import PassPlan.Cli.Commands
import PassPlan.Cli.Flag
import PassPlan.Cli.Host
import PassPlan.Cli.Parse
import PassPlan.Cli.Session
import PassPlan.Cli.Shell
import PassPlan.Config.Defaults
import PassPlan.Config.Flags
import PassPlan.Config.Layers
import PassPlan.Config.Save
import PassPlan.Config.Settings
import PassPlan.Decimal.Format
import PassPlan.Decimal.Nearest
import PassPlan.Decimal.Shortest
import PassPlan.Diff.Basic
import PassPlan.Diff.Compute
import PassPlan.Diff.Lines
import PassPlan.Dotenv
import PassPlan.Flow.Derive
import PassPlan.Flow.Error
import PassPlan.Flow.Name
import PassPlan.Flow.Registry
import PassPlan.Flow.Resolver
import PassPlan.Flow.Splice
import PassPlan.Graph.Basic
import PassPlan.Graph.Snapshot
import PassPlan.History.Cell
import PassPlan.History.Migration
import PassPlan.History.Record
import PassPlan.History.Repository
import PassPlan.History.Store
import PassPlan.Json.Access
import PassPlan.Json.Basic
import PassPlan.Json.Reader
import PassPlan.Json.Value
import PassPlan.Json.Writer
import PassPlan.Log.Level
import PassPlan.Log.Line
import PassPlan.Log.Logger
import PassPlan.Main
import PassPlan.Model.File
import PassPlan.Pass.Basic
import PassPlan.Pass.Catalog
import PassPlan.Pass.Kinds
import PassPlan.Pass.Params
import PassPlan.Pipeline.Defaults
import PassPlan.Pipeline.File
import PassPlan.Pipeline.Read
import PassPlan.Present.Answer
import PassPlan.Present.Decode
import PassPlan.Present.Document
import PassPlan.Present.Read
import PassPlan.Present.Record
import PassPlan.Present.Service
import PassPlan.Present.Session
import PassPlan.Present.Stable
import PassPlan.Present.Text
import PassPlan.PubSub.Broker
import PassPlan.Run.Builder
import PassPlan.Run.Executor
import PassPlan.Run.Machine
import PassPlan.Run.Report
import PassPlan.Sql.Change
import PassPlan.Sql.Check
import PassPlan.Sql.Database
import PassPlan.Sql.Function
import PassPlan.Sql.Json
import PassPlan.Sql.JsonPath
import PassPlan.Sql.Numeric
import PassPlan.Sql.Operator
import PassPlan.Sql.Parse
import PassPlan.Sql.Prepare
import PassPlan.Sql.Printf
import PassPlan.Sql.Query
import PassPlan.Sql.Schema
import PassPlan.Sql.Scope
import PassPlan.Sql.Script
import PassPlan.Sql.Statement
import PassPlan.Sql.Syntax
import PassPlan.Sql.Token
import PassPlan.Sql.Value
import PassPlan.Text.Blank
import PassPlan.Text.Bytes
import PassPlan.Text.EastAsian
import PassPlan.Text.Grapheme
import PassPlan.Text.GraphemeTables
import PassPlan.Text.Letter
import PassPlan.Text.Lower
import PassPlan.Text.Printable
import PassPlan.Text.Quoted
import PassPlan.Text.Ranges
import PassPlan.Text.Upper
import PassPlan.Text.Width
import PassPlan.Text.Wrap
import PassPlan.Toml.Basic
import PassPlan.Toml.Number
import PassPlan.Toml.Read
import PassPlan.Toml.Table
import PassPlan.Trace.Instrument
import PassPlan.Trace.Provider
import PassPlan.Trace.Record
import PassPlan.Trace.Span
import PassPlan.Value.Basic
import PassPlan.Value.Duration
import PassPlan.Value.Numeral
import PassPlan.Value.Rfc3339
import PassPlan.Value.Time
import PassPlan.Workspace.Files
import PassPlan.Workspace.Path
import PassPlan.Workspace.Tree
import PassPlan.Workspace.Watch
import PassPlan.Yaml.Decode
import PassPlan.Yaml.Emit
import PassPlan.Yaml.Encode
import PassPlan.Yaml.Event
import PassPlan.Yaml.Node
import PassPlan.Yaml.Render
import PassPlan.Yaml.Resolve
import PassPlan.Yaml.Scanner
import PassPlan.Yaml.Token
import PassPlan.Proofs.Flow.Expansion
import PassPlan.Proofs.Flow.Memo
import PassPlan.Proofs.Flow.Resolution
import PassPlan.Proofs.Flow.Registry
import PassPlan.Proofs.Backend.Transparency
import PassPlan.Proofs.Run.FailFast
import PassPlan.Proofs.Flow.Diagnostics
import PassPlan.Proofs.Flow.Attribution
import PassPlan.Proofs.Graph.WellFormed
import PassPlan.Proofs.Backend.ParentOrder
import PassPlan.Proofs.Backend.FileOrder
import PassPlan.Proofs.Flow.Derivation
import PassPlan.Proofs.Flow.Extension
import PassPlan.Proofs.Flow.NameText
import PassPlan.Proofs.Pass.Attributes
import PassPlan.Proofs.Graph.Reach
import PassPlan.Proofs.Backend.Forest
import PassPlan.Proofs.Backend.Lineage
import PassPlan.Proofs.Diff.LineSides
import PassPlan.Proofs.PubSub.Queues
import PassPlan.Proofs.Backend.Compile
import PassPlan.Proofs.Config.KeyEdit
