import RecordQuery.Binary.Basic
import RecordQuery.Binary.Literal
import RecordQuery.Binary.Text
import RecordQuery.Calendar.Date
import RecordQuery.Calendar.Layout
import RecordQuery.Coercion
import RecordQuery.Comparison
import RecordQuery.Condition
import RecordQuery.Declaration.Annotation
import RecordQuery.Declaration.Basic
import RecordQuery.Declaration.FieldType
import RecordQuery.Declaration.Parameters
import RecordQuery.Geo
import RecordQuery.Inspect
import RecordQuery.Instant
import RecordQuery.Kind
import RecordQuery.Number
import RecordQuery.Operator
import RecordQuery.Options
import RecordQuery.Order
import RecordQuery.Page
import RecordQuery.Params
import RecordQuery.Path
import RecordQuery.Predicate
import RecordQuery.Query
import RecordQuery.Regex.Basic
import RecordQuery.Regex.Matching
import RecordQuery.Regex.Reading
import RecordQuery.Regex.Syntax
import RecordQuery.Registry
import RecordQuery.Text.Basic
import RecordQuery.Text.Case
import RecordQuery.Text.Case.Table
import RecordQuery.Text.Category
import RecordQuery.Text.Category.Table
import RecordQuery.Text.Property.Table
import RecordQuery.Text.Script.Table
import RecordQuery.Value
import RecordQuery.Proofs.Params
import RecordQuery.Proofs.Query.Settings
import RecordQuery.Proofs.Query.Keywise
import RecordQuery.Proofs.Coercion
import RecordQuery.Proofs.Query.Filters
import RecordQuery.Proofs.Query.Exposure
import RecordQuery.Proofs.Order.Sorting
import RecordQuery.Proofs.Query.Secrecy
import RecordQuery.Proofs.Binary.Conversion
import RecordQuery.Proofs.Number
import RecordQuery.Proofs.Comparison
import RecordQuery.Proofs.Order.Keys
import RecordQuery.Proofs.Order.Stability
import RecordQuery.Proofs.Literal
import RecordQuery.Proofs.Query.Reading
import RecordQuery.Proofs.Page
import RecordQuery.Proofs.Query.Paging
import RecordQuery.Proofs.Equality
import RecordQuery.Proofs.Operator
import RecordQuery.Proofs.Typed
import RecordQuery.Proofs.Query.Single
import RecordQuery.Proofs.Query.Complements
import RecordQuery.Proofs.FailClosed
import RecordQuery.Proofs.Optionals.Bare
import RecordQuery.Proofs.Optionals.Wrapping
import RecordQuery.Proofs.Query.Union
import RecordQuery.Proofs.Query.Columns
import RecordQuery.Proofs.Query.Parts
import RecordQuery.Proofs.Predicates.Places
import RecordQuery.Proofs.Widths.Values
import RecordQuery.Proofs.Predicates.Tests
import RecordQuery.Proofs.Declaration.Annotation
import RecordQuery.Proofs.Declaration.Derivation
import RecordQuery.Proofs.Widths.Predicates
import RecordQuery.Proofs.Declaration.Heeding
import RecordQuery.Proofs.Declaration.Instances
import RecordQuery.Proofs.Declaration.Agreement
import RecordQuery.Proofs.Declaration.Skipped
import RecordQuery.Proofs.Params.Log
import RecordQuery.Proofs.Order.Sorted
import RecordQuery.Proofs.Equality.Mappings
import RecordQuery.Proofs.Comparison.Operators
import RecordQuery.Proofs.Instant
import RecordQuery.Proofs.Predicates.Dates
import RecordQuery.Proofs.Calendar.Alphabet
import RecordQuery.Proofs.Commas
import RecordQuery.Proofs.Query.Ranges
import RecordQuery.Proofs.IgnoringCase
import RecordQuery.Proofs.Page.Positions
import RecordQuery.Proofs.Path
import RecordQuery.Proofs.Calendar.Days
import RecordQuery.Proofs.Calendar.Padded
import RecordQuery.Proofs.Calendar.Marks
import RecordQuery.Proofs.Calendar.Moments
import RecordQuery.Proofs.Calendar.Renderings
import RecordQuery.Proofs.Coercion.Integers
import RecordQuery.Proofs.Declaration.Options
import RecordQuery.Proofs.Geo
import RecordQuery.Proofs.Registry
import RecordQuery.Proofs.Options
import RecordQuery.Proofs.Path.Texts
import RecordQuery.Proofs.Text.SnakeCase
