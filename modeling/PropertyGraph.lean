import PropertyGraph.Analytics.Components
import PropertyGraph.Analytics.Degree
import PropertyGraph.Analytics.PageRank
import PropertyGraph.Analytics.Ranking
import PropertyGraph.Analytics.Report
import PropertyGraph.Archive
import PropertyGraph.Batch.Outcome
import PropertyGraph.Batch.Run
import PropertyGraph.Coercion
import PropertyGraph.Command.Basic
import PropertyGraph.Command.Literal
import PropertyGraph.Command.Shape
import PropertyGraph.Console.Arguments
import PropertyGraph.Console.Program
import PropertyGraph.DateTime.Basic
import PropertyGraph.DateTime.Calendar
import PropertyGraph.DateTime.Notation
import PropertyGraph.Decimal.Basic
import PropertyGraph.Decimal.Notation
import PropertyGraph.Decimal.Reading
import PropertyGraph.Decimal.Shortest
import PropertyGraph.Digest
import PropertyGraph.Document
import PropertyGraph.GraphError
import PropertyGraph.Identifier
import PropertyGraph.Json.Reader
import PropertyGraph.Json.Writer
import PropertyGraph.Ledger
import PropertyGraph.LogEntry
import PropertyGraph.Main
import PropertyGraph.Node
import PropertyGraph.OrderedMap
import PropertyGraph.Publication
import PropertyGraph.Relationship
import PropertyGraph.Scalar
import PropertyGraph.Settings.Basic
import PropertyGraph.Settings.EnvFile
import PropertyGraph.Snapshot
import PropertyGraph.Sorting.Merge
import PropertyGraph.Sorting.Runs
import PropertyGraph.Sorting.Search
import PropertyGraph.Store.Basic
import PropertyGraph.Store.Import
import PropertyGraph.Store.Nodes
import PropertyGraph.Store.Query
import PropertyGraph.Store.Relationships
import PropertyGraph.Supply
import PropertyGraph.Text.Blank
import PropertyGraph.Text.Case
import PropertyGraph.Text.CaseTable
import PropertyGraph.Text.LineBreak
import PropertyGraph.Text.PrintableTable
import PropertyGraph.Text.Quoted
import PropertyGraph.Text.Word
import PropertyGraph.Text.WordTable
import PropertyGraph.Violation
import PropertyGraph.Proofs.OrderedMap
import PropertyGraph.Proofs.Elements
import PropertyGraph.Proofs.Trim
import PropertyGraph.Proofs.CharClass
import PropertyGraph.Proofs.Recheck
import PropertyGraph.Proofs.Operations
import PropertyGraph.Proofs.Batch
import PropertyGraph.Proofs.BatchComposition
import PropertyGraph.Proofs.Reachable
import PropertyGraph.Proofs.Sound
import PropertyGraph.Proofs.Origin
import PropertyGraph.Proofs.Refusal
import PropertyGraph.Proofs.OneByOne
import PropertyGraph.Proofs.Components
import PropertyGraph.Proofs.BreadthFirst
import PropertyGraph.Proofs.Entries
import PropertyGraph.Proofs.Literal
import PropertyGraph.Proofs.Grammar
import PropertyGraph.Proofs.Reading
import PropertyGraph.Proofs.CommandLine
import PropertyGraph.Proofs.JsonToken
import PropertyGraph.Proofs.Json
import PropertyGraph.Proofs.Unambiguous
import PropertyGraph.Proofs.Stored
import PropertyGraph.Proofs.Restore
import PropertyGraph.Proofs.Chronology
import PropertyGraph.Proofs.Creatable
import PropertyGraph.Proofs.Edits
import PropertyGraph.Proofs.Lineage
import PropertyGraph.Proofs.Tally
import PropertyGraph.Proofs.Effects
import PropertyGraph.Proofs.Calendar
import PropertyGraph.Proofs.ClockText
import PropertyGraph.Proofs.Loading
import PropertyGraph.Proofs.Canonical
import PropertyGraph.Proofs.Publishing
import PropertyGraph.Proofs.Walk
import PropertyGraph.Proofs.Guarded
import PropertyGraph.Proofs.PageRank
import PropertyGraph.Proofs.Ranking
import PropertyGraph.Proofs.Contraction
import PropertyGraph.Proofs.CreationLine
import PropertyGraph.Proofs.Replacement
import PropertyGraph.Proofs.Unreadable
import PropertyGraph.Proofs.Neighbourhood
import PropertyGraph.Proofs.Degrees
import PropertyGraph.Proofs.Report
import PropertyGraph.Proofs.Changes
import PropertyGraph.Proofs.Amendment
import PropertyGraph.Proofs.Admission
import PropertyGraph.Proofs.Deletion
import PropertyGraph.Proofs.Shares
import PropertyGraph.Proofs.Overlap
import PropertyGraph.Proofs.Weights
import PropertyGraph.Proofs.Offsets
import PropertyGraph.Proofs.Lifetimes
import PropertyGraph.Proofs.TypeLookup
import PropertyGraph.Proofs.LooseEnds
import PropertyGraph.Proofs.Commas
