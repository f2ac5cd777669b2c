import Polystore.Action
import Polystore.Calendar.Date
import Polystore.Calendar.Numbers
import Polystore.Calendar.Pattern
import Polystore.Calendar.Rfc3339
import Polystore.Calendar.Text
import Polystore.Condition
import Polystore.Conformance.Check
import Polystore.Conformance.Conditions
import Polystore.Conformance.Fields
import Polystore.Conformance.Paging
import Polystore.Conformance.Suite
import Polystore.Conformance.Tracing
import Polystore.Conformance.Writes
import Polystore.ConnectUrl
import Polystore.Connection
import Polystore.Converter
import Polystore.Cursor
import Polystore.DataType
import Polystore.Entity
import Polystore.Executor
import Polystore.Failure
import Polystore.Kind
import Polystore.Named
import Polystore.Native
import Polystore.Number.Binary
import Polystore.Number.Bits
import Polystore.Number.Decimal
import Polystore.Number.DecimalFloat
import Polystore.Number.DecimalText
import Polystore.Number.FloatText
import Polystore.Number.IntegerText
import Polystore.Number.Power
import Polystore.Number.Rounding
import Polystore.Number.Shortest
import Polystore.Number.Word
import Polystore.Operator
import Polystore.Predicate.Builder
import Polystore.Predicate.Filter
import Polystore.Predicate.KeyLookup
import Polystore.Predicate.Transcript
import Polystore.Proofs.Converter.Rows
import Polystore.Proofs.Named
import Polystore.Proofs.Converter.Parts
import Polystore.Proofs.Executor.Reads
import Polystore.Proofs.Sorting
import Polystore.Proofs.Store.Failures
import Polystore.Proofs.Store.Ledger
import Polystore.Proofs.Store.Live
import Polystore.Proofs.Store.Pages
import Polystore.Proofs.Store.Paging
import Polystore.Proofs.Store.Runs
import Polystore.Proofs.Store.Soundness
import Polystore.Proofs.Store.Tokens
import Polystore.Proofs.Store.Writes
import Polystore.Query
import Polystore.Session.Basic
import Polystore.Session.Scripted
import Polystore.Store.Basic
import Polystore.Store.Connect
import Polystore.Store.Predicate
import Polystore.Store.Read
import Polystore.Store.Settings
import Polystore.Store.Write
import Polystore.Text.Blank
import Polystore.Text.Bytes
import Polystore.Text.Excerpt
import Polystore.Text.Hex
import Polystore.Text.Like
import Polystore.Text.Percent
import Polystore.Text.Printable
import Polystore.Text.Quoted
import Polystore.Text.Split
import Polystore.Url.Address
import Polystore.Url.Basic
import Polystore.Url.Parameters
import Polystore.Uuid
import Polystore.Value.Basic
import Polystore.Value.Compare
import Polystore.Value.Text
import Polystore.Writer
import Polystore.Proofs.Store.Revisions
import Polystore.Proofs.Store.Lasting
import Polystore.Proofs.Store.Interleaving
import Polystore.Proofs.Executor.Conversations
import Polystore.Proofs.Executor.Walks
import Polystore.Proofs.Executor.Modes
import Polystore.Proofs.Executor.Patience
import Polystore.Proofs.Executor.Retries
import Polystore.Proofs.Executor.Chains
import Polystore.Proofs.Predicate.Shapes
import Polystore.Proofs.Predicate.Translation
import Polystore.Proofs.Converter.RoundTrip
import Polystore.Proofs.Converter.Rewriting
import Polystore.Proofs.Calendar.Digits
import Polystore.Proofs.Calendar.Patterns
import Polystore.Proofs.Calendar.Texts
import Polystore.Proofs.Uuid
import Polystore.Proofs.Converter.Elements
import Polystore.Proofs.Store.Elements
import Polystore.Proofs.Store.WrittenBack
import Polystore.Proofs.Store.Returned
import Polystore.Proofs.Store.Removals
import Polystore.Proofs.Value.Equality
import Polystore.Proofs.Predicate.KeyConditions
import Polystore.Proofs.Store.KeyedReads
import Polystore.Proofs.Converter.Maps
import Polystore.Proofs.Store.Finding
import Polystore.Proofs.Store.KeysFound
import Polystore.Proofs.Store.Commuting
import Polystore.Proofs.Text.Like
import Polystore.Proofs.Comparisons
import Polystore.Proofs.Value.Order
import Polystore.Proofs.Value.Families
import Polystore.Proofs.Store.RowOrder
import Polystore.Proofs.Store.SortedReads
import Polystore.Proofs.Text.Digits
import Polystore.Proofs.Calendar.Order
import Polystore.Proofs.Converter.Ordered
import Polystore.Proofs.Store.OriginalOrder
import Polystore.Proofs.Number.IntegerText
import Polystore.Proofs.Value.Conversions
import Polystore.Proofs.Number.Nearest
import Polystore.Proofs.Number.Shortest
import Polystore.Proofs.Number.FloatText
import Polystore.Proofs.Calendar.Days
import Polystore.Proofs.Calendar.OffsetOrder
import Polystore.Proofs.Store.OffsetReads
import Polystore.Proofs.Number.DecimalText
import Polystore.Proofs.Text.Hex
import Polystore.Proofs.Calendar.Displayed
import Polystore.Proofs.Value.Texts
import Polystore.Proofs.Converter.Occurrences
import Polystore.Proofs.Converter.Policies
import Polystore.Proofs.Converter.Places
import Polystore.Proofs.Converter.MixedLists
import Polystore.Proofs.Predicate.Membership
import Polystore.Proofs.Value.Encodings
import Polystore.Proofs.Converter.BuiltInWriters
import Polystore.Proofs.Registrations
import Polystore.Proofs.Value.Equivalence
import Polystore.Proofs.Predicate.Requests
import Polystore.Proofs.Text.Bytes
import Polystore.Proofs.Text.Percent
import Polystore.Proofs.Text.Split
import Polystore.Proofs.Number.StrictInteger
import Polystore.Proofs.Url.Parameters
import Polystore.Proofs.Url.Forms
import Polystore.Proofs.Url.Encoded
import Polystore.Proofs.Url.Lengths
import Polystore.Proofs.Url.Arrival
import Polystore.Proofs.Store.Settings
