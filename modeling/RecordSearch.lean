import RecordSearch.Bindings
import RecordSearch.Calendar.Date
import RecordSearch.Calendar.Instant
import RecordSearch.Calendar.Reader
import RecordSearch.Catalogue.FantasyLeague
import RecordSearch.Catalogue.TaggedTree
import RecordSearch.Database
import RecordSearch.Directives
import RecordSearch.Distinct
import RecordSearch.Fetch.Plan
import RecordSearch.Fetch.Request
import RecordSearch.Fetch.Schedule
import RecordSearch.Json.Basic
import RecordSearch.Json.Printer
import RecordSearch.Json.Reader
import RecordSearch.Name
import RecordSearch.Number.Binary64
import RecordSearch.Number.Digits
import RecordSearch.Number.Shortest
import RecordSearch.Paging
import RecordSearch.Predicate.Basic
import RecordSearch.Predicate.Matching
import RecordSearch.Proofs.Bindings.FreeKey
import RecordSearch.Proofs.Bindings.History
import RecordSearch.Proofs.Bindings.Requests
import RecordSearch.Proofs.Calendar.LeapSecond
import RecordSearch.Proofs.Calendar.Reading
import RecordSearch.Proofs.Directives.Header
import RecordSearch.Proofs.Directives.Reduction
import RecordSearch.Proofs.Directives.Seek
import RecordSearch.Proofs.Directives.Segments
import RecordSearch.Proofs.Fetch.Abort
import RecordSearch.Proofs.Fetch.CallOrder
import RecordSearch.Proofs.Fetch.Chains
import RecordSearch.Proofs.Fetch.Clock
import RecordSearch.Proofs.Fetch.Deadline
import RecordSearch.Proofs.Fetch.Elapsed
import RecordSearch.Proofs.Fetch.Ending
import RecordSearch.Proofs.Fetch.Expiry
import RecordSearch.Proofs.Fetch.Late
import RecordSearch.Proofs.Fetch.Levels
import RecordSearch.Proofs.Fetch.NamedPaths
import RecordSearch.Proofs.Fetch.Nesting
import RecordSearch.Proofs.Fetch.Progress
import RecordSearch.Proofs.Fetch.Queue
import RecordSearch.Proofs.Fetch.Requests
import RecordSearch.Proofs.Fetch.Script
import RecordSearch.Proofs.Fetch.Timing
import RecordSearch.Proofs.Fetch.Trace
import RecordSearch.Proofs.Json.Order
import RecordSearch.Proofs.Name.Grammar
import RecordSearch.Proofs.Number.Rounding
import RecordSearch.Proofs.Number.Width
import RecordSearch.Proofs.Paging.Bounds
import RecordSearch.Proofs.Predicate.Algebra
import RecordSearch.Proofs.Predicate.Comparing
import RecordSearch.Proofs.Predicate.Fields
import RecordSearch.Proofs.Predicate.Folding
import RecordSearch.Proofs.Predicate.Integers
import RecordSearch.Proofs.Predicate.Stored
import RecordSearch.Proofs.Record.Decoding
import RecordSearch.Proofs.Registry.Standing
import RecordSearch.Proofs.Resolution.Keys
import RecordSearch.Proofs.Resolution.OneByOne
import RecordSearch.Proofs.Resolution.Search
import RecordSearch.Proofs.Resolution.Selection
import RecordSearch.Proofs.Session
import RecordSearch.Proofs.Settings.Defaults
import RecordSearch.Proofs.Sql.Agreement
import RecordSearch.Proofs.Sql.Binding
import RecordSearch.Proofs.Sql.Execution
import RecordSearch.Proofs.Sql.Folding
import RecordSearch.Proofs.Sql.Grammar
import RecordSearch.Proofs.Sql.Lexing
import RecordSearch.Proofs.Sql.Placeholders
import RecordSearch.Proofs.Sql.Reading
import RecordSearch.Proofs.Sql.StatementText
import RecordSearch.Proofs.Sql.Statements
import RecordSearch.Proofs.Store.IntegerColumn
import RecordSearch.Proofs.Store.Pages
import RecordSearch.Proofs.Store.Preorder
import RecordSearch.Proofs.Store.Recording
import RecordSearch.Proofs.Store.Sorting
import RecordSearch.Proofs.Text.LowerCase
import RecordSearch.Proofs.Text.Spelling
import RecordSearch.Proofs.Text.Wildcard
import RecordSearch.Proofs.Value.Order
import RecordSearch.Proofs.Value.UuidText
import RecordSearch.Record
import RecordSearch.Registry
import RecordSearch.Relation
import RecordSearch.Service
import RecordSearch.Settings.Basic
import RecordSearch.Settings.EnvironmentFile
import RecordSearch.Settings.Folder
import RecordSearch.Settings.Load
import RecordSearch.Sql.Condition
import RecordSearch.Sql.Statement
import RecordSearch.Store.Basic
import RecordSearch.Store.Recorder
import RecordSearch.StoreError
import RecordSearch.Text.CaseTable
import RecordSearch.Text.Classes
import RecordSearch.Text.LowerCase
import RecordSearch.Text.Quoted
import RecordSearch.Text.Wildcard
import RecordSearch.Toml.Layout
import RecordSearch.Toml.Reader
import RecordSearch.Toml.Scalar
import RecordSearch.Toml.Table
import RecordSearch.Toml.Text
import RecordSearch.Toml.Value
import RecordSearch.Uuid
import RecordSearch.Value
