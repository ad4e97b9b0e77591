import Listing.Check.Basic
import Listing.Check.Config
import Listing.Check.Field
import Listing.Check.Issue
import Listing.Check.Request
import Listing.Check.WholeNumber
import Listing.Condition
import Listing.Config
import Listing.Criteria
import Listing.Fault
import Listing.Filter.Basic
import Listing.Filter.Compile
import Listing.Filter.Operand
import Listing.Filter.Statement
import Listing.Identifier
import Listing.Memory.Fetch
import Listing.Memory.Operation
import Listing.Memory.Sort
import Listing.Memory.Truth
import Listing.Note
import Listing.Number.Binary64
import Listing.Number.Decimal
import Listing.Number.Digits
import Listing.Number.Extended
import Listing.Number.Numeral
import Listing.Number.Shortest
import Listing.Operator
import Listing.Page.Basic
import Listing.Page.Envelope
import Listing.Page.Links
import Listing.Plan.Basic
import Listing.Plan.Resolve
import Listing.Predicate
import Listing.Proofs.Criteria
import Listing.Proofs.Filter.Alternatives
import Listing.Proofs.Filter.Compile
import Listing.Proofs.Filter.Lookup
import Listing.Proofs.Filter.Markers
import Listing.Proofs.Filter.Negation
import Listing.Proofs.Filter.Spelling
import Listing.Proofs.Memory.Comparison
import Listing.Proofs.Memory.Fetching
import Listing.Proofs.Memory.Lexicographic
import Listing.Proofs.Memory.Operation
import Listing.Proofs.Memory.Registering
import Listing.Proofs.Memory.Sorting
import Listing.Proofs.Memory.Truth
import Listing.Proofs.Number.Characters
import Listing.Proofs.Number.Numeral
import Listing.Proofs.Outcome
import Listing.Proofs.Page.Answer
import Listing.Proofs.Page.Chain
import Listing.Proofs.Page.Decoding
import Listing.Proofs.Page.Links
import Listing.Proofs.Page.Noninterference
import Listing.Proofs.Page.Partition
import Listing.Proofs.Page.Reading
import Listing.Proofs.Page.Reordering
import Listing.Proofs.Page.Rereading
import Listing.Proofs.Page.Resorting
import Listing.Proofs.Plan.Confinement
import Listing.Proofs.Plan.Evaluation
import Listing.Proofs.Plan.Planning
import Listing.Proofs.Plan.Rejection
import Listing.Proofs.Plan.Resolving
import Listing.Proofs.Plan.Searching
import Listing.Proofs.Plan.Whitelist
import Listing.Proofs.Predicate.Filling
import Listing.Proofs.Predicate.Fingerprint
import Listing.Proofs.Predicate.Laws
import Listing.Proofs.Predicate.Leaves
import Listing.Proofs.Predicate.Truth
import Listing.Proofs.Registry
import Listing.Proofs.Request.Address
import Listing.Proofs.Request.Fields
import Listing.Proofs.Request.Parameters
import Listing.Proofs.Request.Percent
import Listing.Proofs.Request.Reading
import Listing.Proofs.Sql.Agreement
import Listing.Proofs.Sql.Clause
import Listing.Proofs.Sql.Compile
import Listing.Proofs.Sql.Fetching
import Listing.Proofs.Sql.Like
import Listing.Proofs.Sql.Order
import Listing.Proofs.Sql.Refusal
import Listing.Proofs.Sql.Rows
import Listing.Proofs.Sql.Search
import Listing.Proofs.Sql.Selection
import Listing.Proofs.Sql.Tests
import Listing.Proofs.Sql.Typed
import Listing.Proofs.Sql.Unreadable
import Listing.Proofs.Table
import Listing.Proofs.Text.Delimited
import Listing.Proofs.Text.Lower
import Listing.Proofs.Text.Sigma
import Listing.Proofs.Value.Alike
import Listing.Proofs.Value.Written
import Listing.Registry
import Listing.Request.Address
import Listing.Request.Basic
import Listing.Request.Host
import Listing.Request.Parameters
import Listing.Request.Percent
import Listing.Sql.Bind
import Listing.Sql.Cell
import Listing.Sql.Clause
import Listing.Sql.Compile
import Listing.Sql.Fetch
import Listing.Sql.Operation
import Listing.Sql.Render
import Listing.Sql.Table
import Listing.Sql.Truth
import Listing.Table
import Listing.Text.Character
import Listing.Text.Lower
import Listing.Text.LowerTable
import Listing.Text.PrintableTable
import Listing.Text.Quoted
import Listing.Text.Search
import Listing.Text.Word
import Listing.Time.Date
import Listing.Time.Moment
import Listing.Time.Reading
import Listing.Truth
import Listing.Value.Basic
import Listing.Value.Cast
import Listing.Value.Equal
import Listing.Value.Path
import Listing.Value.Written
