import RecordFilter.Calendar.Date
import RecordFilter.Calendar.DateTime
import RecordFilter.Calendar.Reading
import RecordFilter.Catalog.Catalog
import RecordFilter.Command.Arguments
import RecordFilter.Command.Environment
import RecordFilter.Command.Report
import RecordFilter.Command.Run
import RecordFilter.Config.File
import RecordFilter.Config.FileTree
import RecordFilter.Config.Path
import RecordFilter.Config.Settings
import RecordFilter.Filter.Compile
import RecordFilter.Filter.Document
import RecordFilter.Filter.Error
import RecordFilter.Filter.Operator
import RecordFilter.Filter.Options
import RecordFilter.Filter.Order
import RecordFilter.Filter.Predicate
import RecordFilter.Filter.Range
import RecordFilter.Filter.Request
import RecordFilter.Http.Paging
import RecordFilter.Http.Problem
import RecordFilter.Http.Service
import RecordFilter.Json.Draft
import RecordFilter.Json.Number
import RecordFilter.Json.Reading
import RecordFilter.Json.Value
import RecordFilter.Json.Writing
import RecordFilter.Main
import RecordFilter.Number.Binary
import RecordFilter.Number.BinaryText
import RecordFilter.Number.Decimal
import RecordFilter.Number.Integer
import RecordFilter.Proofs.Calendar.Reading
import RecordFilter.Proofs.Calendar.Writing
import RecordFilter.Proofs.Command.QueryString
import RecordFilter.Proofs.Config.Layers
import RecordFilter.Proofs.Config.Paths
import RecordFilter.Proofs.Config.UnknownMembers
import RecordFilter.Proofs.Filter.Arrival
import RecordFilter.Proofs.Filter.Combination
import RecordFilter.Proofs.Filter.Compilation
import RecordFilter.Proofs.Filter.Conditions
import RecordFilter.Proofs.Filter.Containment
import RecordFilter.Proofs.Filter.Equality
import RecordFilter.Proofs.Filter.Meaning
import RecordFilter.Proofs.Filter.Merging
import RecordFilter.Proofs.Filter.Nesting
import RecordFilter.Proofs.Filter.NormalForm
import RecordFilter.Proofs.Filter.Rearrangement
import RecordFilter.Proofs.Filter.Routing
import RecordFilter.Proofs.Filter.Sequence
import RecordFilter.Proofs.Filter.Skipping
import RecordFilter.Proofs.Filter.Tightest
import RecordFilter.Proofs.Http.Paging
import RecordFilter.Proofs.Json.Decimals
import RecordFilter.Proofs.Json.Drafts
import RecordFilter.Proofs.Json.Floats
import RecordFilter.Proofs.Json.Numerals
import RecordFilter.Proofs.Json.Rows
import RecordFilter.Proofs.Json.ShortNumbers
import RecordFilter.Proofs.Number.Rounding
import RecordFilter.Proofs.Number.Shortest
import RecordFilter.Proofs.Number.Writing
import RecordFilter.Proofs.Schema.Resolution
import RecordFilter.Proofs.Schema.Table
import RecordFilter.Proofs.Sql.Agreement
import RecordFilter.Proofs.Sql.Aliases
import RecordFilter.Proofs.Sql.Clauses
import RecordFilter.Proofs.Sql.DocumentPath
import RecordFilter.Proofs.Sql.Escaping
import RecordFilter.Proofs.Sql.Evaluation
import RecordFilter.Proofs.Sql.Grammar
import RecordFilter.Proofs.Sql.Parameters
import RecordFilter.Proofs.Sql.Pattern
import RecordFilter.Proofs.Sql.Placeholders
import RecordFilter.Proofs.Sql.Quoting
import RecordFilter.Proofs.Sql.References
import RecordFilter.Proofs.Sql.Scopes
import RecordFilter.Proofs.Sql.Shape
import RecordFilter.Proofs.Sql.Tokens
import RecordFilter.Proofs.Sql.Writing
import RecordFilter.Proofs.Store.Paging
import RecordFilter.Proofs.Store.Precedence
import RecordFilter.Proofs.Store.SortKeys
import RecordFilter.Proofs.Store.StoredNumbers
import RecordFilter.Proofs.Text.Order
import RecordFilter.Proofs.Text.PercentEncoding
import RecordFilter.Proofs.Text.Split
import RecordFilter.Proofs.Text.Utf8
import RecordFilter.Proofs.Unicode.CanonicalOrder
import RecordFilter.Proofs.Unicode.Characters
import RecordFilter.Proofs.Unicode.Context
import RecordFilter.Proofs.Unicode.Folding
import RecordFilter.Proofs.Unicode.Seams
import RecordFilter.Proofs.Unicode.Tables
import RecordFilter.Proofs.Value.Display
import RecordFilter.Proofs.Value.Literals
import RecordFilter.Proofs.Value.Order
import RecordFilter.Schema.FieldType
import RecordFilter.Schema.Operand
import RecordFilter.Schema.Record
import RecordFilter.Server.App
import RecordFilter.Server.Shutdown
import RecordFilter.Sql.Binding
import RecordFilter.Sql.Dialect
import RecordFilter.Sql.Expression
import RecordFilter.Sql.Statement
import RecordFilter.Store.Database
import RecordFilter.Store.Evaluation
import RecordFilter.Store.Query
import RecordFilter.Text.Basic
import RecordFilter.Text.PercentEncoding
import RecordFilter.Text.Quoted
import RecordFilter.Text.Utf8
import RecordFilter.Unicode.Alphanumeric
import RecordFilter.Unicode.CaseContext
import RecordFilter.Unicode.CombiningClass
import RecordFilter.Unicode.DecompositionTable
import RecordFilter.Unicode.Fold
import RecordFilter.Unicode.Hidden
import RecordFilter.Unicode.LowercaseRuns
import RecordFilter.Value.Reading
import RecordFilter.Value.Value
