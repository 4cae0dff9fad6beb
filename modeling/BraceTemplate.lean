import BraceTemplate.Main
import BraceTemplate.Proofs.Template.Scan
import BraceTemplate.Proofs.Template.Extent
import BraceTemplate.Proofs.Template.Tree
import BraceTemplate.Proofs.Template.Concatenation
import BraceTemplate.Proofs.Engine.Concatenation
import BraceTemplate.Proofs.Template.Expression
import BraceTemplate.Proofs.Engine.Block
import BraceTemplate.Proofs.Template.Printing
import BraceTemplate.Proofs.Template.Walk
import BraceTemplate.Proofs.Engine.Agreement
import BraceTemplate.Proofs.Engine.Policy
import BraceTemplate.Proofs.Engine.Depth
import BraceTemplate.Proofs.Engine.Limits
import BraceTemplate.Proofs.Engine.Inclusion
import BraceTemplate.Proofs.Engine.Substitution
import BraceTemplate.Proofs.Dictionary
import BraceTemplate.Proofs.Engine.History
import BraceTemplate.Proofs.Engine.Captures
import BraceTemplate.Proofs.Template.Segment
import BraceTemplate.Proofs.Engine.Nesting
import BraceTemplate.Proofs.Filter.KeyOrder
import BraceTemplate.Proofs.Engine.KeyOrder
import BraceTemplate.Proofs.Template.Level
import BraceTemplate.Proofs.Template.LastCloser
import BraceTemplate.Proofs.Template.Matching
import BraceTemplate.Proofs.Chain
import BraceTemplate.Proofs.Filter.Comparison
import BraceTemplate.Proofs.Template.Leftmost
import BraceTemplate.Proofs.Template.Layout
import BraceTemplate.Proofs.Engine.Reading
import BraceTemplate.Proofs.Engine.Expansion
import BraceTemplate.Proofs.Filter.Sorting
import BraceTemplate.Proofs.Path
import BraceTemplate.Proofs.Engine.Dependence
import BraceTemplate.Proofs.Text.Compaction
import BraceTemplate.Proofs.Engine.Compaction
import BraceTemplate.Proofs.Template.Extension
import BraceTemplate.Proofs.Engine.Capturing
import BraceTemplate.Proofs.Engine.Joining
import BraceTemplate.Proofs.Text.Sign
import BraceTemplate.Proofs.Text.Markup
import BraceTemplate.Proofs.Text.Percent
import BraceTemplate.Proofs.Filter.Textual
import BraceTemplate.Proofs.Number.Encoding
import BraceTemplate.Proofs.Number.Digits
import BraceTemplate.Proofs.Filter.Method
import BraceTemplate.Proofs.Filter.Repetition
import BraceTemplate.Proofs.Value.Equality
import BraceTemplate.Proofs.Value.Reload
import BraceTemplate.Proofs.Value.Equivalence
import BraceTemplate.Proofs.Json.Members
import BraceTemplate.Proofs.Json.Token
import BraceTemplate.Proofs.Json.Number
import BraceTemplate.Proofs.Json.Reader
import BraceTemplate.Proofs.Command.Merging
import BraceTemplate.Proofs.Command.Definition
import BraceTemplate.Proofs.Json.Sorted
import BraceTemplate.Proofs.Number.Nearest
import BraceTemplate.Proofs.Number.Shortest
import BraceTemplate.Proofs.Number.Decimal
import BraceTemplate.Proofs.Number.Positional
import BraceTemplate.Proofs.Toml.Scalar
import BraceTemplate.Proofs.Toml.Keys
import BraceTemplate.Proofs.Toml.Library
import BraceTemplate.Proofs.Toml.Writer
import BraceTemplate.Proofs.Toml.Value
import BraceTemplate.Proofs.Toml.Place
import BraceTemplate.Proofs.Toml.Lines
import BraceTemplate.Proofs.Toml.RoundTrip
import BraceTemplate.Proofs.Config.Document
import BraceTemplate.Proofs.Config.Writing
