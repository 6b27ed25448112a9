import ReplayFlow.Data.OrderedMap
import ReplayFlow.Data.Binary64.Shortest
import ReplayFlow.Text.Basic
import ReplayFlow.Text.Case
import ReplayFlow.Text.WordChar
import ReplayFlow.Text.Printable
import ReplayFlow.Text.Digit
import ReplayFlow.Text.Utf8
import ReplayFlow.Text.Quoted
import ReplayFlow.Text.Integer
import ReplayFlow.Json.Basic
import ReplayFlow.Json.Display
import ReplayFlow.Json.Printer
import ReplayFlow.Json.Spelling
import ReplayFlow.Json.Parser
import ReplayFlow.Fault
import ReplayFlow.Control.Name
import ReplayFlow.Control.Area
import ReplayFlow.ParameterKey
import ReplayFlow.Alias.Name
import ReplayFlow.Alias.Shortening
import ReplayFlow.Notice
import ReplayFlow.Recording.Normalize
import ReplayFlow.Alias.Generation
import ReplayFlow.Flow.Assembly
import ReplayFlow.Flow.Graph
import ReplayFlow.Flow.Targets
import ReplayFlow.Flow.Sequence
import ReplayFlow.Run
import ReplayFlow.Storage.Source
import ReplayFlow.Storage.Sink
import ReplayFlow.Storage.CatalogFile
import ReplayFlow.Recording.Document
import ReplayFlow.Batch.Output
import ReplayFlow.Settings
import ReplayFlow.CommandLine.Session
import ReplayFlow.Service.Operation
import ReplayFlow.Service.Route
import ReplayFlow.Service.Answer
import ReplayFlow.Main
import ReplayFlow.Proofs.Data.Except
import ReplayFlow.Proofs.Data.OrderedMap
import ReplayFlow.Proofs.Text.Basic
import ReplayFlow.Proofs.Alias.Shortening
import ReplayFlow.Proofs.Alias.Naming
import ReplayFlow.Proofs.Alias.Promotion
import ReplayFlow.Proofs.Alias.Generation
import ReplayFlow.Proofs.Recording.Registry
import ReplayFlow.Proofs.Recording.Legacy
import ReplayFlow.Proofs.Recording.Refusal
import ReplayFlow.Proofs.Alias.Order
import ReplayFlow.Proofs.Alias.Classification
import ReplayFlow.Proofs.Alias.Preservation
import ReplayFlow.Proofs.Flow.Relink
import ReplayFlow.Proofs.Flow.Checks
import ReplayFlow.Proofs.Flow.Chain
import ReplayFlow.Proofs.Flow.Assembly
import ReplayFlow.Proofs.Flow.Repair
import ReplayFlow.Proofs.Batch.Survival
import ReplayFlow.Proofs.Batch.Isolation
import ReplayFlow.Proofs.Batch.Legacy
import ReplayFlow.Proofs.Batch.Resolution
import ReplayFlow.Proofs.Json.Showable
import ReplayFlow.Proofs.Strict
import ReplayFlow.Proofs.Recording.Strict
import ReplayFlow.Proofs.Flow.Shown
import ReplayFlow.Proofs.Batch.Strict
import ReplayFlow.Proofs.Batch.Accounting
import ReplayFlow.Proofs.Text.Case
import ReplayFlow.Proofs.Json.Display
import ReplayFlow.Proofs.Json.Parser
import ReplayFlow.Proofs.Json.Spelling
import ReplayFlow.Proofs.Json.Nesting
import ReplayFlow.Proofs.Path
import ReplayFlow.Proofs.Storage.FileTree
import ReplayFlow.Proofs.Storage.Sink
import ReplayFlow.Proofs.Recording.Grouping
import ReplayFlow.Proofs.Recording.Shapes
import ReplayFlow.Proofs.Recording.Document
import ReplayFlow.Proofs.Batch.Output
import ReplayFlow.Proofs.Batch.Directory
import ReplayFlow.Proofs.Batch.Source
import ReplayFlow.Proofs.Json.Distinct
import ReplayFlow.Proofs.Flow.Walk
import ReplayFlow.Proofs.Recording.Records
import ReplayFlow.Proofs.Recording.Action
import ReplayFlow.Proofs.Flow.Carried
import ReplayFlow.Proofs.Flow.Contexts
import ReplayFlow.Proofs.Flow.Enumeration
import ReplayFlow.Proofs.Batch.Recompilation
import ReplayFlow.Proofs.Flow.Targets
import ReplayFlow.Proofs.Batch.Targets
import ReplayFlow.Proofs.Storage.Walk
import ReplayFlow.Proofs.Storage.Containment
import ReplayFlow.Proofs.Service.Containment
import ReplayFlow.Proofs.Flow.Relabel
import ReplayFlow.Proofs.Flow.Renaming
import ReplayFlow.Proofs.Text.Utf8
import ReplayFlow.Proofs.Json.Printer
import ReplayFlow.Proofs.Json.RoundTrip
import ReplayFlow.Proofs.Storage.Document
import ReplayFlow.Proofs.Service.StoredFlow
import ReplayFlow.Proofs.Flow.Conservation
import ReplayFlow.Proofs.Flow.Forward
import ReplayFlow.Proofs.Alias.Bijection
import ReplayFlow.Proofs.Text.Words
import ReplayFlow.Proofs.Text.Ascii
import ReplayFlow.Proofs.Text.Spread
import ReplayFlow.Proofs.ParameterKey
import ReplayFlow.Proofs.ParameterKey.Letters
import ReplayFlow.Proofs.ParameterKey.Clean
import ReplayFlow.Proofs.ParameterKey.Empty
import ReplayFlow.Proofs.Flow.Dangling
import ReplayFlow.Proofs.Batch.Parameters
import ReplayFlow.Proofs.Recording.Splitting
import ReplayFlow.Proofs.Recording.Tally
import ReplayFlow.Proofs.Batch.StepsOnly
import ReplayFlow.Proofs.Control.Area
import ReplayFlow.Proofs.Alias.Heads
import ReplayFlow.Proofs.Flow.Sequence
import ReplayFlow.Proofs.Transaction
import ReplayFlow.Proofs.Batch.ControlTypes
import ReplayFlow.Proofs.Service.ControlTypes
import ReplayFlow.Proofs.Service.Listing
import ReplayFlow.Proofs.Flow.Matching
