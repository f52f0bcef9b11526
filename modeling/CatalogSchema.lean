import CatalogSchema.Aggregate
import CatalogSchema.Catalog.Query
import CatalogSchema.Catalog.Row
import CatalogSchema.Catalog.Snapshot
import CatalogSchema.CommandLine.Command
import CatalogSchema.CommandLine.Execution
import CatalogSchema.CommandLine.Words
import CatalogSchema.Configuration
import CatalogSchema.Constraint.ForeignKey
import CatalogSchema.Constraint.Uniqueness
import CatalogSchema.ContextFolder
import CatalogSchema.Database.Call
import CatalogSchema.Database.Fault
import CatalogSchema.Database.Session
import CatalogSchema.Environment
import CatalogSchema.FileTree
import CatalogSchema.FirstCome
import CatalogSchema.Introspection
import CatalogSchema.Json.Basic
import CatalogSchema.Json.Binary64
import CatalogSchema.Json.Encoder
import CatalogSchema.Json.Parser
import CatalogSchema.Json.Printer
import CatalogSchema.Log.Record
import CatalogSchema.Log.Settings
import CatalogSchema.Main
import CatalogSchema.Operator.Definition
import CatalogSchema.Operator.Exposure
import CatalogSchema.Operator.Preference
import CatalogSchema.Operator.Resolution
import CatalogSchema.Operator.Variant
import CatalogSchema.Order
import CatalogSchema.OrderedMap
import CatalogSchema.Pathname
import CatalogSchema.Place
import CatalogSchema.Proofs.Aggregate
import CatalogSchema.Proofs.Catalog.Answer
import CatalogSchema.Proofs.Catalog.Lookup
import CatalogSchema.Proofs.Catalog.Renumbering
import CatalogSchema.Proofs.Catalog.RoundTrip
import CatalogSchema.Proofs.CommandLine.Update
import CatalogSchema.Proofs.Constraint.ForeignKeys
import CatalogSchema.Proofs.Database.Session
import CatalogSchema.Proofs.FileTree
import CatalogSchema.Proofs.Introspection
import CatalogSchema.Proofs.Json.RoundTrip
import CatalogSchema.Proofs.Json.ShortIntegers
import CatalogSchema.Proofs.KeyedMap
import CatalogSchema.Proofs.Operator.AllowList
import CatalogSchema.Proofs.Operator.CastClosure
import CatalogSchema.Proofs.Operator.ClosedForm
import CatalogSchema.Proofs.Operator.Exposure
import CatalogSchema.Proofs.Operator.Preferred
import CatalogSchema.Proofs.Operator.Provenance
import CatalogSchema.Proofs.Operator.Ranking
import CatalogSchema.Proofs.Operator.Widening
import CatalogSchema.Proofs.Relation.ColumnNames
import CatalogSchema.Proofs.Relation.Normalization
import CatalogSchema.Proofs.Schema.Addition
import CatalogSchema.Proofs.Schema.Closure
import CatalogSchema.Proofs.Schema.Exclusion
import CatalogSchema.Proofs.Schema.ExposedNames
import CatalogSchema.Proofs.Schema.Functions
import CatalogSchema.Proofs.Schema.KeyOrder
import CatalogSchema.Proofs.Schema.Renumbering
import CatalogSchema.Proofs.Schema.Resemblance
import CatalogSchema.Proofs.Schema.RoundTrip
import CatalogSchema.Proofs.Schema.RowOrder
import CatalogSchema.Proofs.Schema.TableConstraints
import CatalogSchema.Proofs.Schema.Tables
import CatalogSchema.Proofs.Schema.TypeNames
import CatalogSchema.Proofs.Service.Closing
import CatalogSchema.Proofs.Service.Lifespan
import CatalogSchema.Proofs.Service.Reintrospection
import CatalogSchema.Proofs.Service.SerialStarts
import CatalogSchema.Proofs.Service.Start
import CatalogSchema.Proofs.Service.Traffic
import CatalogSchema.Proofs.Service.Watching
import CatalogSchema.Proofs.Settlement
import CatalogSchema.Proofs.StableSort
import CatalogSchema.Proofs.Text.Encoding
import CatalogSchema.Proofs.Typing.Lookup
import CatalogSchema.Proofs.Typing.Partition
import CatalogSchema.Proofs.Validation.Codec
import CatalogSchema.Proofs.Validation.Settling
import CatalogSchema.Proofs.Watch.Bracketing
import CatalogSchema.Proofs.Watch.Cancellation
import CatalogSchema.Proofs.Watch.Run
import CatalogSchema.Proofs.Watch.Task
import CatalogSchema.Relation.Normalized
import CatalogSchema.Relation.Selection
import CatalogSchema.Schema.Assembly
import CatalogSchema.Schema.Column
import CatalogSchema.Schema.Metadata
import CatalogSchema.Schema.Resolution
import CatalogSchema.Service.Application
import CatalogSchema.Service.Router
import CatalogSchema.Text.Blank
import CatalogSchema.Text.Control
import CatalogSchema.Text.Digit
import CatalogSchema.Text.Encoding
import CatalogSchema.Text.Integer
import CatalogSchema.Text.Quoted
import CatalogSchema.Text.Similarity
import CatalogSchema.Text.Uppercase
import CatalogSchema.Text.Visible
import CatalogSchema.Typing.Classification
import CatalogSchema.Typing.ImplicitCast
import CatalogSchema.Validation.Decoder
import CatalogSchema.Validation.IntegerText
import CatalogSchema.Validation.Issue
import CatalogSchema.Watch.Stage
import CatalogSchema.Watch.Task
import CatalogSchema.Watch.Trigger
import CatalogSchema.Watch.Watcher
