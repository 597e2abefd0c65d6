import Conveyor.Value.Basic
import Conveyor.Value.Convert
import Conveyor.Value.Json
import Conveyor.Decimal.Text
import Conveyor.Text.Basic
import Conveyor.Text.Digits
import Conveyor.Text.Case
import Conveyor.Hash.Table
import Conveyor.Value.Show
import Conveyor.Env.Binding
import Conveyor.Env.Overlay
import Conveyor.Config.Section
import Conveyor.Text.Shell
import Conveyor.Pipeline.Model
import Conveyor.Workers.Pool
import Conveyor.Pipeline.Runner
import Conveyor.Pipeline.Batch
import Conveyor.Pipeline.Launch
import Conveyor.Config.Run
import Conveyor.Pipeline.Plan
import Conveyor.Config.Merge
import Conveyor.Config.Load
import Conveyor.Decimal.Approx
import Conveyor.Decimal.Binary
import Conveyor.Value.Loose
import Conveyor.Table.Cell
import Conveyor.Table.Column
import Conveyor.Table.Sort
import Conveyor.History.Summary
import Conveyor.Table.Render
import Conveyor.Cli.Layout
import Conveyor.Cli.Arguments
import Conveyor.Cli.Session
import Conveyor.Main
import Conveyor.Text.Encoding
import Conveyor.Yaml.Stream
import Conveyor.Yaml.Token
import Conveyor.Yaml.Token.Lexer
import Conveyor.Yaml.Token.Scalars
import Conveyor.Yaml.Token.Next
import Conveyor.Yaml.Event.Machine
import Conveyor.Yaml.Implicit
import Conveyor.Yaml.Graph
import Conveyor.Yaml.Timestamp
import Conveyor.Yaml.Document
import Conveyor.Proofs.Running
import Conveyor.Proofs.Pool
import Conveyor.Proofs.Track
import Conveyor.Proofs.Outcome
import Conveyor.Proofs.Schedule
import Conveyor.Proofs.Interleaving
import Conveyor.Proofs.Isolation
import Conveyor.Proofs.Scopes
import Conveyor.Proofs.Events
import Conveyor.Proofs.Sections
import Conveyor.Proofs.Addresses
import Conveyor.Proofs.Readers
import Conveyor.Proofs.Schema
import Conveyor.Proofs.Check
import Conveyor.Proofs.Acceptance
import Conveyor.Proofs.Resolution
import Conveyor.Proofs.Cancellation
import Conveyor.Proofs.ReaderResults
import Conveyor.Proofs.ActionNames
import Conveyor.Proofs.Planning
import Conveyor.Proofs.Containment
import Conveyor.Proofs.SetOrder
import Conveyor.Proofs.Selection
import Conveyor.Proofs.Calls
import Conveyor.Proofs.Consumption
import Conveyor.Proofs.Quoting
import Conveyor.Proofs.Bindings
import Conveyor.Proofs.Expansion
import Conveyor.Proofs.Merging
import Conveyor.Proofs.Placement
import Conveyor.Proofs.StableSort
import Conveyor.Proofs.SortMap
import Conveyor.Proofs.HistoryRows
import Conveyor.Proofs.HistorySummary
import Conveyor.Proofs.ValueReaders
import Conveyor.Proofs.NestedReaders
import Conveyor.Proofs.ListReaders
import Conveyor.Proofs.TreeCalls
import Conveyor.Proofs.TrackEscapes
import Conveyor.Proofs.RunMerging
import Conveyor.Proofs.MergeResults
import Conveyor.Proofs.ConfigResults
import Conveyor.Proofs.InterleavedResults
import Conveyor.Proofs.IsolatedRuns
