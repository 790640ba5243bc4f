import SeriesQuery.Api
import SeriesQuery.Api.MediaType
import SeriesQuery.Api.Request
import SeriesQuery.Catalog
import SeriesQuery.Catalog.Aggregation
import SeriesQuery.Catalog.Axis
import SeriesQuery.Catalog.Build
import SeriesQuery.Catalog.Definition
import SeriesQuery.Catalog.Error
import SeriesQuery.Cli
import SeriesQuery.Cli.Args
import SeriesQuery.Cli.Command
import SeriesQuery.Config.Sample
import SeriesQuery.Config.Settings
import SeriesQuery.Datasource
import SeriesQuery.Dict
import SeriesQuery.Expr.Eval
import SeriesQuery.Expr.Parser
import SeriesQuery.Expr.Syntax
import SeriesQuery.Expr.Token
import SeriesQuery.Json
import SeriesQuery.Json.Decode
import SeriesQuery.Json.Document
import SeriesQuery.Json.Flaw
import SeriesQuery.Json.Lexeme
import SeriesQuery.Json.Order
import SeriesQuery.Json.Reader
import SeriesQuery.Main
import SeriesQuery.Number
import SeriesQuery.Number.Binary64
import SeriesQuery.Number.Decimal
import SeriesQuery.Number.Nearest
import SeriesQuery.Number.Power
import SeriesQuery.Number.Shortest
import SeriesQuery.Product
import SeriesQuery.Proofs.Api.Outcomes
import SeriesQuery.Proofs.Catalog.Build
import SeriesQuery.Proofs.Catalog.Distinct
import SeriesQuery.Proofs.Catalog.Expansion
import SeriesQuery.Proofs.Catalog.Extremes
import SeriesQuery.Proofs.Catalog.Index
import SeriesQuery.Proofs.Catalog.Validation
import SeriesQuery.Proofs.Cli.Assignments
import SeriesQuery.Proofs.Dict
import SeriesQuery.Proofs.Expr.Bounded
import SeriesQuery.Proofs.Expr.Comparison
import SeriesQuery.Proofs.Expr.Consumption
import SeriesQuery.Proofs.Expr.Finite
import SeriesQuery.Proofs.Expr.Levels
import SeriesQuery.Proofs.Expr.Lookup
import SeriesQuery.Proofs.Expr.Operands
import SeriesQuery.Proofs.Expr.Printer
import SeriesQuery.Proofs.Expr.Produced
import SeriesQuery.Proofs.Expr.Progress
import SeriesQuery.Proofs.Expr.Reserved
import SeriesQuery.Proofs.Expr.RoundTrip
import SeriesQuery.Proofs.Expr.Tokens
import SeriesQuery.Proofs.Json.Integers
import SeriesQuery.Proofs.Json.Order
import SeriesQuery.Proofs.Number.Arithmetic
import SeriesQuery.Proofs.Number.Integers
import SeriesQuery.Proofs.Number.Order
import SeriesQuery.Proofs.Number.Rounding
import SeriesQuery.Proofs.Number.Whole
import SeriesQuery.Proofs.Product
import SeriesQuery.Proofs.Product.Walk
import SeriesQuery.Proofs.Query.Attribute
import SeriesQuery.Proofs.Query.Combinations
import SeriesQuery.Proofs.Query.Compile
import SeriesQuery.Proofs.Query.Failures
import SeriesQuery.Proofs.Query.Heading
import SeriesQuery.Proofs.Query.HostFilter
import SeriesQuery.Proofs.Query.Layers
import SeriesQuery.Proofs.Query.Namespaces
import SeriesQuery.Proofs.Query.Parameters
import SeriesQuery.Proofs.Query.Repeated
import SeriesQuery.Proofs.Query.ShownName
import SeriesQuery.Proofs.Query.Steps
import SeriesQuery.Proofs.Results
import SeriesQuery.Proofs.Store.Buckets
import SeriesQuery.Proofs.Store.Cursor
import SeriesQuery.Proofs.Store.Grouped
import SeriesQuery.Proofs.Store.GroupedRange
import SeriesQuery.Proofs.Store.History
import SeriesQuery.Proofs.Store.Range
import SeriesQuery.Proofs.Store.Rearranged
import SeriesQuery.Proofs.Store.Registered
import SeriesQuery.Proofs.Store.Shapes
import SeriesQuery.Proofs.Template.Reported
import SeriesQuery.Proofs.Template.Scan
import SeriesQuery.Proofs.Template.Slot
import SeriesQuery.Proofs.Template.Spelling
import SeriesQuery.Proofs.Text.Digits
import SeriesQuery.Proofs.Text.Encoding
import SeriesQuery.Proofs.Text.Entity
import SeriesQuery.Proofs.Text.Order
import SeriesQuery.Proofs.Text.Resolved
import SeriesQuery.Proofs.Text.Runs
import SeriesQuery.Proofs.Text.Trim
import SeriesQuery.Proofs.Time.Arithmetic
import SeriesQuery.Query.Error
import SeriesQuery.Query.Plan
import SeriesQuery.Query.Request
import SeriesQuery.Query.Response
import SeriesQuery.Query.Runner
import SeriesQuery.Query.Scope
import SeriesQuery.Store.Arango
import SeriesQuery.Store.Basic
import SeriesQuery.Store.Error
import SeriesQuery.Store.Memory
import SeriesQuery.Store.Network
import SeriesQuery.Template
import SeriesQuery.Text.Blank
import SeriesQuery.Text.Bytes
import SeriesQuery.Text.Case
import SeriesQuery.Text.CaseRanges
import SeriesQuery.Text.Encoding
import SeriesQuery.Text.Entity
import SeriesQuery.Text.HiddenRanges
import SeriesQuery.Text.Letter
import SeriesQuery.Text.LetterRanges
import SeriesQuery.Text.Quoted
import SeriesQuery.Text.Split
import SeriesQuery.Time.Calendar
import SeriesQuery.Time.Range
import SeriesQuery.Time.Stamp
import SeriesQuery.Toml.Reader
import SeriesQuery.Toml.Scalar
import SeriesQuery.Toml.Table
import SeriesQuery.Word
