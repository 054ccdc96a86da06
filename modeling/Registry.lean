import Registry.Text.Blank
import Registry.Text.CaseFold
import Registry.TextSet
import Registry.TextMap
import Registry.Json.Reader
import Registry.Json.Printer
import Registry.Json.Record
import Registry.Facet
import Registry.Facet.Kind
import Registry.Element
import Registry.Element.Json
import Registry.Selection.Json
import Registry.Dataset.Json
import Registry.Tables.Removal
import Registry.Tables.Import
import Registry.Tables.Json
import Registry.Source.Scripted
import Registry.Snapshot.Build
import Registry.Cleanup.Json
import Registry.StoreFile
import Registry.Toml.Reader
import Registry.Settings.Json
import Registry.Settings.Layers
import Registry.CommandLine.Commands
import Registry.Tables.Text
import Registry.Main
import Registry.Proofs.Rows
import Registry.Proofs.Tables.Keys
import Registry.Proofs.Tables.Subtree
import Registry.Proofs.Tables.Removal
import Registry.Proofs.Tables.Acceptance
import Registry.Proofs.Tables.Changes
import Registry.Proofs.Tables.Reading
import Registry.Proofs.Tables.Writing
import Registry.Proofs.Tables.Fetch
import Registry.Proofs.Retrieval.Stored
import Registry.Proofs.Retrieval.Counting
import Registry.Proofs.Retrieval.Vanished
import Registry.Proofs.Retrieval.Guarantees
import Registry.Proofs.Retrieval.Unasked
import Registry.Proofs.Retrieval.Batch
import Registry.Proofs.Retrieval.Agreement
import Registry.Proofs.Retrieval.Steps
import Registry.Proofs.Retrieval.BestEffort
import Registry.Proofs.Retrieval.Absorption
import Registry.Proofs.Snapshot.Shape
import Registry.Proofs.Snapshot.Stored
import Registry.Proofs.Snapshot.Exact
import Registry.Proofs.Snapshot.Removal
import Registry.Proofs.Snapshot.Coherent
import Registry.Proofs.Snapshot.Indexed
import Registry.Proofs.Snapshot.Insertion
import Registry.Proofs.Snapshot.Filtered
import Registry.Proofs.Snapshot.Calls
import Registry.Proofs.Cleanup.Plan
import Registry.Proofs.Cleanup.Schema
import Registry.Proofs.Cleanup.InUse
import Registry.Proofs.Cleanup.Live
import Registry.Proofs.Cleanup.Repeat
import Registry.Proofs.Cleanup.Forecast
import Registry.Proofs.Cleanup.Scope
import Registry.Proofs.Cleanup.Order
import Registry.Proofs.Cleanup.Account
import Registry.Proofs.Cleanup.Balance
import Registry.Proofs.History
import Registry.Proofs.Json.Records
import Registry.Proofs.Settings.Saved
import Registry.Proofs.Settings.Overlay
import Registry.Proofs.Settings.Init
import Registry.Proofs.Settings.Precedence
import Registry.Proofs.Settings.Sources
import Registry.Proofs.Settings.Sources
