import AccessPolicy.Calendar.Date
import AccessPolicy.Calendar.Directive
import AccessPolicy.Calendar.Instant
import AccessPolicy.Calendar.Letters
import AccessPolicy.Calendar.Reader
import AccessPolicy.Calendar.Written
import AccessPolicy.Condition.Basic
import AccessPolicy.Condition.Block
import AccessPolicy.Condition.Operator
import AccessPolicy.Decimal.Binary
import AccessPolicy.Decimal.Integer
import AccessPolicy.Decimal.Numeral
import AccessPolicy.Decimal.Rounding
import AccessPolicy.Decimal.Shortest
import AccessPolicy.Document.Basic
import AccessPolicy.Document.Resource
import AccessPolicy.Engine.Basic
import AccessPolicy.Json.Basic
import AccessPolicy.Json.Parser
import AccessPolicy.Json.Printer
import AccessPolicy.Marker.Resolver
import AccessPolicy.Marker.Segment
import AccessPolicy.Marker.Source
import AccessPolicy.Net.Address
import AccessPolicy.Net.Network
import AccessPolicy.Pattern.Basic
import AccessPolicy.Pattern.ByteRange
import AccessPolicy.Pattern.CaseFold
import AccessPolicy.Pattern.NamedSet
import AccessPolicy.Pattern.Program
import AccessPolicy.Pattern.Property.Age
import AccessPolicy.Pattern.Property.Binary
import AccessPolicy.Pattern.Property.Break
import AccessPolicy.Pattern.Property.Category
import AccessPolicy.Pattern.Property.Script
import AccessPolicy.Pattern.Property.ScriptExtension
import AccessPolicy.Pattern.Reader
import AccessPolicy.Pattern.Regex
import AccessPolicy.Pattern.Size
import AccessPolicy.Policy.Basic
import AccessPolicy.Policy.Failure
import AccessPolicy.Proofs.Calendar.Letters
import AccessPolicy.Proofs.Condition.Composition
import AccessPolicy.Proofs.Condition.Invalid
import AccessPolicy.Proofs.Condition.LeftOperand
import AccessPolicy.Proofs.Condition.Ordering
import AccessPolicy.Proofs.Condition.Pairless
import AccessPolicy.Proofs.Document.Directive
import AccessPolicy.Proofs.Document.Grammar
import AccessPolicy.Proofs.Document.Mapping
import AccessPolicy.Proofs.Engine.Registration
import AccessPolicy.Proofs.Engine.Texts
import AccessPolicy.Proofs.Marker.Clock
import AccessPolicy.Proofs.Marker.Division
import AccessPolicy.Proofs.Marker.Influence
import AccessPolicy.Proofs.Marker.Letters
import AccessPolicy.Proofs.Marker.OneText
import AccessPolicy.Proofs.Marker.Paths
import AccessPolicy.Proofs.Marker.Strings
import AccessPolicy.Proofs.Pattern.Capacity
import AccessPolicy.Proofs.Pattern.Delimited
import AccessPolicy.Proofs.Pattern.EmptyText
import AccessPolicy.Proofs.Pattern.Generated
import AccessPolicy.Proofs.Pattern.Layout
import AccessPolicy.Proofs.Pattern.Meaning
import AccessPolicy.Proofs.Pattern.Search
import AccessPolicy.Proofs.Pattern.Sequence
import AccessPolicy.Proofs.Pattern.Wildcard
import AccessPolicy.Proofs.Policy.Evaluation
import AccessPolicy.Proofs.Policy.FailClosed
import AccessPolicy.Proofs.Policy.Influence
import AccessPolicy.Proofs.Policy.Instance
import AccessPolicy.Proofs.Policy.Listing
import AccessPolicy.Proofs.Policy.Nameless
import AccessPolicy.Proofs.Policy.Params
import AccessPolicy.Proofs.Policy.Prefix
import AccessPolicy.Proofs.Settings.Load
import AccessPolicy.Proofs.Text.FinalSigma
import AccessPolicy.Proofs.Text.LowerCase
import AccessPolicy.Proofs.Tree.Chain
import AccessPolicy.Proofs.Tree.Merge
import AccessPolicy.Proofs.Tree.Origin
import AccessPolicy.Proofs.Tree.Reachable
import AccessPolicy.Proofs.Tree.Standing
import AccessPolicy.Proofs.Tree.Writes
import AccessPolicy.Proofs.Value.Equality
import AccessPolicy.Proofs.Value.Instant
import AccessPolicy.Proofs.Value.LeadingInteger
import AccessPolicy.Proofs.Value.RoundTrip
import AccessPolicy.Settings.Basic
import AccessPolicy.Settings.Layer
import AccessPolicy.Settings.Load
import AccessPolicy.Settings.Shape
import AccessPolicy.Table.Basic
import AccessPolicy.Table.Entries
import AccessPolicy.Text.Alphanumeric
import AccessPolicy.Text.Cased
import AccessPolicy.Text.Character
import AccessPolicy.Text.Cut
import AccessPolicy.Text.LowerCase
import AccessPolicy.Text.Quoted
import AccessPolicy.Text.Ranges
import AccessPolicy.Toml.Item
import AccessPolicy.Toml.Reader
import AccessPolicy.Toml.Scalar
import AccessPolicy.Tree.Basic
import AccessPolicy.Tree.Compile
import AccessPolicy.Tree.Merge
import AccessPolicy.Value.Basic
import AccessPolicy.Value.Literal
import AccessPolicy.Value.Order
