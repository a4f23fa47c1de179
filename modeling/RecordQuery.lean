import RecordQuery.Command.Arguments
import RecordQuery.Command.Run
import RecordQuery.Evaluation
import RecordQuery.FilterDocument
import RecordQuery.Json.Basic
import RecordQuery.Json.Number
import RecordQuery.Json.Reader
import RecordQuery.Json.Writer
import RecordQuery.Number.Binary64
import RecordQuery.Number.Decimal
import RecordQuery.Number.Mixed
import RecordQuery.Number.Notation
import RecordQuery.Number.Numeral
import RecordQuery.OptionsDocument
import RecordQuery.Path
import RecordQuery.Pattern.Cache
import RecordQuery.Pattern.Wildcard
import RecordQuery.Query
import RecordQuery.Records
import RecordQuery.Regex.Basic
import RecordQuery.Regex.CharSet
import RecordQuery.Regex.Parser
import RecordQuery.Regex.Size
import RecordQuery.Syntax.Canonical
import RecordQuery.Syntax.Expr
import RecordQuery.Syntax.Lexer
import RecordQuery.Syntax.Literal
import RecordQuery.Syntax.Parser
import RecordQuery.Syntax.Token
import RecordQuery.Syntax.Validity
import RecordQuery.Text.Category.Table
import RecordQuery.Text.Characters
import RecordQuery.Text.CodePoints
import RecordQuery.Text.LetterCase
import RecordQuery.Text.LetterCase.Tables
import RecordQuery.Text.Property
import RecordQuery.Text.Property.Tables
import RecordQuery.Text.RunTable
import RecordQuery.Text.Script.Table
import RecordQuery.Time.Calendar
import RecordQuery.Time.Timestamp
import RecordQuery.Value.Basic
import RecordQuery.Value.Comparison
import RecordQuery.Value.Json
import RecordQuery.Main
import RecordQuery.Proofs.Text.Characters
import RecordQuery.Proofs.Number.Reading
import RecordQuery.Proofs.Number.PositionalText
import RecordQuery.Proofs.Number.Integers
import RecordQuery.Proofs.Number.Mixed
import RecordQuery.Proofs.Number.DecimalRounding
import RecordQuery.Proofs.Number.MixedOrder
import RecordQuery.Proofs.Syntax.Grammar
import RecordQuery.Proofs.Syntax.ParserSound
import RecordQuery.Proofs.Syntax.ParserComplete
import RecordQuery.Proofs.Syntax.ParserFailures
import RecordQuery.Proofs.Syntax.Lookahead
import RecordQuery.Proofs.Syntax.Recognisers
import RecordQuery.Proofs.Syntax.Initials
import RecordQuery.Proofs.Syntax.Tokenization
import RecordQuery.Proofs.Syntax.Dialects
import RecordQuery.Proofs.Text.LowerCase
import RecordQuery.Proofs.Time.LowerCase
import RecordQuery.Proofs.Syntax.CanonicalTokens
import RecordQuery.Proofs.Syntax.Rendering
import RecordQuery.Proofs.Syntax.RoundTrip
import RecordQuery.Proofs.Syntax.StrictRoundTrip
import RecordQuery.Proofs.Syntax.Validity
import RecordQuery.Proofs.FilterDocument.Reading
import RecordQuery.Proofs.FilterDocument.Existence
import RecordQuery.Proofs.FilterDocument.References
import RecordQuery.Proofs.Pattern.Collection
import RecordQuery.Proofs.Path.Walk
import RecordQuery.Proofs.Evaluation.Steps
import RecordQuery.Proofs.Pattern.Transparency
import RecordQuery.Proofs.Evaluation.IntegerLiterals
import RecordQuery.Proofs.Evaluation.Failures
import RecordQuery.Proofs.Evaluation.StrictPaths
import RecordQuery.Proofs.Regex.Matching
import RecordQuery.Proofs.Pattern.WildcardFit
import RecordQuery.Proofs.Pattern.WildcardSource
import RecordQuery.Proofs.Pattern.WildcardMatching
import RecordQuery.Proofs.Syntax.Boundaries
import RecordQuery.Proofs.Syntax.Composition
import RecordQuery.Proofs.Evaluation.FanOut
import RecordQuery.Proofs.Evaluation.LetterCase
import RecordQuery.Proofs.Evaluation.IgnoringCase
import RecordQuery.Proofs.Json.Numbers
import RecordQuery.Proofs.Json.Containers
import RecordQuery.Proofs.Json.Entries
import RecordQuery.Proofs.Json.Reading
import RecordQuery.Proofs.Records.Filtering
import RecordQuery.Proofs.Value.Objects
import RecordQuery.Proofs.Value.Symmetry
import RecordQuery.Proofs.Value.Sameness
import RecordQuery.Proofs.Evaluation.Mirroring
import RecordQuery.Proofs.Number.DecimalOrder
import RecordQuery.Proofs.Number.NumberLine
import RecordQuery.Proofs.Value.NumberOrder
import RecordQuery.Proofs.Evaluation.Membership
import RecordQuery.Proofs.Evaluation.NegationNormal
import RecordQuery.Proofs.FilterDocument.Shape
import RecordQuery.Proofs.FilterDocument.Operators
import RecordQuery.Proofs.FilterDocument.Patterns
import RecordQuery.Proofs.FilterDocument.Keys
import RecordQuery.Proofs.Syntax.Iteration
import RecordQuery.Proofs.Syntax.MaximalMunch
import RecordQuery.Proofs.Syntax.Layout
import RecordQuery.Proofs.Syntax.ClosingSlash
import RecordQuery.Proofs.Syntax.Escaping
import RecordQuery.Proofs.Evaluation.ObjectOrder
import RecordQuery.Proofs.Evaluation.Clock
import RecordQuery.Proofs.Records.LazySelection
import RecordQuery.Proofs.Records.Idempotence
import RecordQuery.Proofs.Path.Composition
import RecordQuery.Proofs.Syntax.StrictQueries
import RecordQuery.Proofs.Json.Streams
import RecordQuery.Proofs.Records.Concatenation
import RecordQuery.Proofs.Syntax.Unquoting
