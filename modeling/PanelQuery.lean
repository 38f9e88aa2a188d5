import PanelQuery.CommandLine
import PanelQuery.Condition.Basic
import PanelQuery.Condition.Join
import PanelQuery.Condition.Normal
import PanelQuery.Context
import PanelQuery.Domain.Ascii
import PanelQuery.Domain.Direction
import PanelQuery.Domain.DirectionTable
import PanelQuery.Domain.Label
import PanelQuery.Domain.LabelTable
import PanelQuery.Domain.Mapping
import PanelQuery.Domain.MappingTable
import PanelQuery.Editor.Codec
import PanelQuery.Editor.Edit
import PanelQuery.Editor.Options
import PanelQuery.Editor.Sanitize
import PanelQuery.Expression
import PanelQuery.Flame
import PanelQuery.Form.Basic
import PanelQuery.Form.Codec
import PanelQuery.Form.Row
import PanelQuery.Form.Scalar
import PanelQuery.Frame.Alias
import PanelQuery.Frame.Basic
import PanelQuery.Frame.Resource
import PanelQuery.Frame.Shape
import PanelQuery.Grouping
import PanelQuery.Http.Header
import PanelQuery.Http.MediaType
import PanelQuery.Http.Message
import PanelQuery.Http.Target
import PanelQuery.Interval
import PanelQuery.Json.Basic
import PanelQuery.Json.Decoder
import PanelQuery.Json.Draft
import PanelQuery.Json.Lexer
import PanelQuery.Json.Numeral
import PanelQuery.Json.Print
import PanelQuery.Lru
import PanelQuery.Main
import PanelQuery.Net.Ip
import PanelQuery.Net.Socket
import PanelQuery.Number.Decimal
import PanelQuery.Number.Double
import PanelQuery.Number.Shortest
import PanelQuery.Operator
import PanelQuery.Payload
import PanelQuery.Proofs.Json.Reordering
import PanelQuery.Querier.Client
import PanelQuery.Querier.Compiled
import PanelQuery.Querier.Dialogue
import PanelQuery.Querier.Error
import PanelQuery.Querier.Metadata
import PanelQuery.Querier.Result
import PanelQuery.Querier.TimePlaceholder
import PanelQuery.Querier.Trace
import PanelQuery.Relationship
import PanelQuery.ResourceKey
import PanelQuery.Service.Basic
import PanelQuery.Service.Catalog
import PanelQuery.Service.Error
import PanelQuery.Service.Request
import PanelQuery.Service.Respond
import PanelQuery.Service.Route
import PanelQuery.Service.Start
import PanelQuery.Table.Basic
import PanelQuery.Table.Codec
import PanelQuery.Text.Blank
import PanelQuery.Text.Case
import PanelQuery.Text.CaseTable
import PanelQuery.Text.CodeTable
import PanelQuery.Text.Composition
import PanelQuery.Text.CompositionTable
import PanelQuery.Text.Hex
import PanelQuery.Text.Percent
import PanelQuery.Text.Punycode
import PanelQuery.Text.Search
import PanelQuery.Timestamp
import PanelQuery.Url.Basic
import PanelQuery.Url.Host
import PanelQuery.Url.Read
import PanelQuery.Validation
import PanelQuery.Variable.Basic
import PanelQuery.Variable.Codec
import PanelQuery.Variable.Interpolate
import PanelQuery.Variable.Resolve
import PanelQuery.Proofs.Form.RoundTrip
import PanelQuery.Proofs.Condition.Tree
import PanelQuery.Proofs.Grouping
import PanelQuery.Proofs.Results
import PanelQuery.Proofs.Condition.Join
import PanelQuery.Proofs.Condition.Filters
import PanelQuery.Proofs.Condition.TimeRange
import PanelQuery.Proofs.Operator
import PanelQuery.Proofs.Validation
import PanelQuery.Proofs.Condition.TimeBounds
import PanelQuery.Proofs.Editor.Offers
import PanelQuery.Proofs.Editor.Settling
import PanelQuery.Proofs.Frame.Sorting
import PanelQuery.Proofs.Frame.Columns
import PanelQuery.Proofs.Frame.Series
import PanelQuery.Proofs.Frame.RowOrder
import PanelQuery.Proofs.Condition.Metric
import PanelQuery.Proofs.SelectReference
import PanelQuery.Proofs.Variable.Override
import PanelQuery.Proofs.Variable.Settled
import PanelQuery.Proofs.Lru
import PanelQuery.Proofs.Frame.Shown
import PanelQuery.Proofs.Frame.Partition
import PanelQuery.Proofs.Service.Statements
import PanelQuery.Proofs.Querier.Plays
import PanelQuery.Proofs.Service.Actions
import PanelQuery.Proofs.Service.Queries
import PanelQuery.Proofs.Service.Reloading
import PanelQuery.Proofs.Editor.Choosing
import PanelQuery.Proofs.Relationship
import PanelQuery.Proofs.Editor.Occupied
import PanelQuery.Proofs.Editor.Resets
import PanelQuery.Proofs.Frame.Companions
import PanelQuery.Proofs.Service.Guards
import PanelQuery.Proofs.Payload
import PanelQuery.Proofs.Editor.Pruning
import PanelQuery.Proofs.Editor.Functions
import PanelQuery.Proofs.Editor.Missing
import PanelQuery.Proofs.SeriesLimit
import PanelQuery.Proofs.Condition.Layout
import PanelQuery.Proofs.Condition.Negation
import PanelQuery.Proofs.FunctionChain
import PanelQuery.Proofs.Variable.Sentinels
import PanelQuery.Proofs.Condition.Sentinels
import PanelQuery.Proofs.Text.Splice
import PanelQuery.Proofs.Text.Words
import PanelQuery.Proofs.IdColumn
import PanelQuery.Proofs.ResourceKey
import PanelQuery.Proofs.Variable.Interpolation
import PanelQuery.Proofs.Querier.TimePlaceholder
import PanelQuery.Proofs.SpanDetails
import PanelQuery.Proofs.Editor.TagOptions
import PanelQuery.Proofs.Editor.Kept
import PanelQuery.Proofs.Editor.Repeating
import PanelQuery.Proofs.Editor.Undoing
import PanelQuery.Proofs.Aggregation
import PanelQuery.Proofs.Frame.Alias
import PanelQuery.Proofs.Frame.Prepared
import PanelQuery.Proofs.Frame.Cells
import PanelQuery.Proofs.Json.Normal
import PanelQuery.Proofs.Json.Lexemes
import PanelQuery.Proofs.Json.Printed
import PanelQuery.Proofs.Querier.Compiled
