import TableQuery.Action
import TableQuery.Advice.Plan
import TableQuery.Advice.Report
import TableQuery.Cache.Distributed
import TableQuery.Cache.Key
import TableQuery.Cache.Memory
import TableQuery.Cache.Server
import TableQuery.Cache.Tiered
import TableQuery.Cell
import TableQuery.Command.Arguments
import TableQuery.Command.Request
import TableQuery.Command.Run
import TableQuery.Config.Environment
import TableQuery.Config.Printer
import TableQuery.Config.Reader
import TableQuery.Config.Settings
import TableQuery.Database.Connection
import TableQuery.Database.Store
import TableQuery.Database.Value
import TableQuery.Dataset.ColumnType
import TableQuery.Dataset.Declaration
import TableQuery.Dataset.Table
import TableQuery.Engine
import TableQuery.Fault
import TableQuery.Filter.Condition
import TableQuery.Filter.Operator
import TableQuery.Filter.Predicate
import TableQuery.Fixture
import TableQuery.Hash.Sha256
import TableQuery.Json.Canonical
import TableQuery.Json.Lexeme
import TableQuery.Json.Printer
import TableQuery.Json.Reader
import TableQuery.Json.Record
import TableQuery.Json.Value
import TableQuery.Main
import TableQuery.Numeric.Binary64
import TableQuery.Numeric.Decimal
import TableQuery.Numeric.Shortest
import TableQuery.Proofs.Action
import TableQuery.Proofs.Advice.Advisor
import TableQuery.Proofs.Advice.Exclusion
import TableQuery.Proofs.Advice.Overlap
import TableQuery.Proofs.Advice.Plan
import TableQuery.Proofs.Advice.Recognition
import TableQuery.Proofs.Advice.Report
import TableQuery.Proofs.Cache.Accounting
import TableQuery.Proofs.Cache.Coherence
import TableQuery.Proofs.Cache.Distributed
import TableQuery.Proofs.Cache.Eviction
import TableQuery.Proofs.Cache.Glob
import TableQuery.Proofs.Cache.History
import TableQuery.Proofs.Cache.Hysteresis
import TableQuery.Proofs.Cache.Interleaving
import TableQuery.Proofs.Cache.Invalidation
import TableQuery.Proofs.Cache.Key
import TableQuery.Proofs.Cache.Lifetime
import TableQuery.Proofs.Cache.Memory
import TableQuery.Proofs.Cache.Range
import TableQuery.Proofs.Cache.Statistics
import TableQuery.Proofs.Cache.Tiered
import TableQuery.Proofs.Cell
import TableQuery.Proofs.Cell.Decimal
import TableQuery.Proofs.Cell.RoundTrip
import TableQuery.Proofs.Cell.Search
import TableQuery.Proofs.Config.RoundTrip
import TableQuery.Proofs.Database.Value
import TableQuery.Proofs.Dataset.Declared
import TableQuery.Proofs.Engine.Clock
import TableQuery.Proofs.Engine.Filtered
import TableQuery.Proofs.Engine.Fresh
import TableQuery.Proofs.Engine.Keys
import TableQuery.Proofs.Engine.Operation
import TableQuery.Proofs.Engine.Rejection
import TableQuery.Proofs.Engine.Soundness
import TableQuery.Proofs.Engine.Transparency
import TableQuery.Proofs.Filter.Entry
import TableQuery.Proofs.Filter.Exact
import TableQuery.Proofs.Filter.Field
import TableQuery.Proofs.Filter.Grammar
import TableQuery.Proofs.Filter.Meaning
import TableQuery.Proofs.Filter.Order
import TableQuery.Proofs.Filter.Rendering
import TableQuery.Proofs.Filter.Shape
import TableQuery.Proofs.History
import TableQuery.Proofs.Json.Reordering
import TableQuery.Proofs.Json.Text
import TableQuery.Proofs.Json.Words
import TableQuery.Proofs.Numeric.Closest
import TableQuery.Proofs.Numeric.Fewest
import TableQuery.Proofs.Numeric.Nearest
import TableQuery.Proofs.Numeric.Numeral
import TableQuery.Proofs.Numeric.Rounding
import TableQuery.Proofs.Numeric.Text
import TableQuery.Proofs.Query.Alignment
import TableQuery.Proofs.Query.Builder
import TableQuery.Proofs.Query.Clause
import TableQuery.Proofs.Query.Equivalence
import TableQuery.Proofs.Query.Identifier
import TableQuery.Proofs.Query.Independence
import TableQuery.Proofs.Query.Meaning
import TableQuery.Proofs.Query.Page
import TableQuery.Proofs.Query.Paging
import TableQuery.Proofs.Query.Pattern
import TableQuery.Proofs.Query.Restriction
import TableQuery.Proofs.Query.Target
import TableQuery.Proofs.Query.Typing
import TableQuery.Proofs.Query.Unfiltered
import TableQuery.Proofs.Query.Write
import TableQuery.Proofs.Registry
import TableQuery.Proofs.Registry.History
import TableQuery.Proofs.Registry.Proper
import TableQuery.Proofs.Result
import TableQuery.Proofs.Sql.Coercion
import TableQuery.Proofs.Sql.Condition
import TableQuery.Proofs.Sql.Delimited
import TableQuery.Proofs.Sql.Grammar
import TableQuery.Proofs.Sql.Pattern
import TableQuery.Proofs.Sql.Placeholder
import TableQuery.Proofs.Sql.Reading
import TableQuery.Proofs.Sql.Rendering
import TableQuery.Proofs.Sql.Token
import TableQuery.Proofs.Sql.Write
import TableQuery.Proofs.Store.Keys
import TableQuery.Proofs.Store.Laws
import TableQuery.Proofs.Store.Recorded
import TableQuery.Proofs.Store.Refusal
import TableQuery.Proofs.Store.Rows
import TableQuery.Proofs.Time.Phrase
import TableQuery.Query.Compile
import TableQuery.Query.Execution
import TableQuery.Query.Page
import TableQuery.Query.ResultPage
import TableQuery.Query.Statement
import TableQuery.Recording.Database
import TableQuery.Recording.Number
import TableQuery.Recording.Store
import TableQuery.Registry
import TableQuery.Sql.Identifier
import TableQuery.Sql.Param
import TableQuery.Store.Interface
import TableQuery.Store.Prepared
import TableQuery.Text.Blank
import TableQuery.Text.Escaped
import TableQuery.Text.Range
import TableQuery.Text.Shown
import TableQuery.Text.Utf8
import TableQuery.Text.Word
import TableQuery.Time.Calendar
import TableQuery.Time.Duration
import TableQuery.Time.Phrase
import TableQuery.Yaml.Document
import TableQuery.Yaml.Node
import TableQuery.Yaml.Scalar
import TableQuery.Yaml.Source
import TableQuery.Yaml.Tag
import TableQuery.Yaml.Token
