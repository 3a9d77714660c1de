import Attest.Analysis.Analyzer
import Attest.Analysis.Check
import Attest.Analysis.Error
import Attest.Analysis.Files
import Attest.Analysis.Session
import Attest.CommandLine
import Attest.Document.Comparison
import Attest.Document.Json
import Attest.Document.KeyValue
import Attest.Document.Node
import Attest.Document.Resolution
import Attest.Document.Xml
import Attest.Evaluation.Declare
import Attest.Evaluation.Evaluate
import Attest.Evaluation.Predicate
import Attest.Evaluation.Store
import Attest.Evaluation.Store.Lemmas
import Attest.Json.Error
import Attest.Json.Reader
import Attest.Json.Reader.Basic
import Attest.Json.Reader.Number
import Attest.Json.Reader.Text
import Attest.Json.Value
import Attest.Language.Assertion
import Attest.Language.Form
import Attest.Language.Lexer
import Attest.Language.Literal
import Attest.Language.Manual
import Attest.Language.Path
import Attest.Language.Position
import Attest.Language.Token
import Attest.Main
import Attest.Number.Binary64
import Attest.Number.Decimal
import Attest.Number.FloatText
import Attest.Number.Numeral
import Attest.Number.Shortest
import Attest.Pattern.Compile
import Attest.Pattern.Expr
import Attest.Pattern.Fault
import Attest.Pattern.Match
import Attest.Pattern.Property
import Attest.Pattern.Reader
import Attest.Pattern.Reader.Basic
import Attest.Pattern.Reader.Bracket
import Attest.Pattern.Reader.Escape
import Attest.Pattern.Reader.Group
import Attest.Pattern.Reader.Repetition
import Attest.Pattern.Size
import Attest.Pattern.Tree
import Attest.Proofs.Analysis.Bindings
import Attest.Proofs.Analysis.Histories
import Attest.Proofs.Analysis.Sessions
import Attest.Proofs.Document.Composition
import Attest.Proofs.Document.Elements
import Attest.Proofs.Document.Equality
import Attest.Proofs.Document.Grouping
import Attest.Proofs.Document.Nodes
import Attest.Proofs.Document.Refusals
import Attest.Proofs.Evaluation.Checked
import Attest.Proofs.Evaluation.Children
import Attest.Proofs.Evaluation.Declarations
import Attest.Proofs.Evaluation.Inlining
import Attest.Proofs.Evaluation.ShortCircuit
import Attest.Proofs.Language.Characters
import Attest.Proofs.Language.Numerals
import Attest.Proofs.Language.Scanning
import Attest.Proofs.Language.Strings
import Attest.Proofs.Language.Trees
import Attest.Proofs.Language.Words
import Attest.Proofs.Number.Decimal
import Attest.Proofs.Syntax.Chains
import Attest.Proofs.Syntax.Completeness
import Attest.Proofs.Syntax.Diagnostics
import Attest.Proofs.Syntax.Forms
import Attest.Proofs.Syntax.Layout
import Attest.Proofs.Syntax.Leaves
import Attest.Proofs.Syntax.Locality
import Attest.Proofs.Syntax.Parsers
import Attest.Proofs.Syntax.Recovery
import Attest.Proofs.Syntax.Repair
import Attest.Proofs.Syntax.RoundTrip
import Attest.Proofs.Syntax.Rules
import Attest.Proofs.Syntax.Soundness
import Attest.Proofs.Syntax.Sources
import Attest.Proofs.Syntax.Written
import Attest.Syntax.Construct
import Attest.Syntax.Fault
import Attest.Syntax.Grammar
import Attest.Syntax.Parser
import Attest.Syntax.Tree
import Attest.Text.Lines
import Attest.Text.Quoted
import Attest.Unicode.Alphabetic
import Attest.Unicode.Blank
import Attest.Unicode.CaseMap
import Attest.Unicode.Category
import Attest.Unicode.CodePoints
import Attest.Unicode.Folding
import Attest.Unicode.Lowercase
import Attest.Unicode.Printable
import Attest.Unicode.Property
import Attest.Unicode.RangeText
import Attest.Unicode.Script
import Attest.Xml.Escape
import Attest.Xml.Event
import Attest.Xml.Tag
import Attest.Proofs.Language.Placement
import Attest.Proofs.Evaluation.Reordering
import Attest.Proofs.Language.Lookahead
import Attest.Proofs.Syntax.Preface
import Attest.Proofs.Syntax.Lines
import Attest.Proofs.Syntax.Reports
import Attest.Proofs.Analysis.Reordering
import Attest.Proofs.Analysis.Checks
import Attest.Proofs.Analysis.Batches
import Attest.Proofs.Analysis.Endings
import Attest.Proofs.Analysis.Records
import Attest.Proofs.Xml.Markup
import Attest.Proofs.Xml.References
import Attest.Proofs.Document.Content
import Attest.Proofs.Document.Differences
import Attest.Proofs.Document.Comments
import Attest.Proofs.Document.Addresses
import Attest.Proofs.Evaluation.Leaf
import Attest.Proofs.Evaluation.Wildcards
import Attest.Proofs.Evaluation.NormalForms
import Attest.Proofs.Number.Magnitude
import Attest.Proofs.Document.Ordering
import Attest.Proofs.Evaluation.Relations
import Attest.Proofs.Evaluation.Duality
import Attest.Proofs.Number.Numerals
import Attest.Proofs.Document.Numerals
import Attest.Proofs.Number.Values
import Attest.Proofs.Number.Rounding
import Attest.Proofs.Number.Conversion
import Attest.Proofs.Document.Precision
import Attest.Proofs.Document.Integers
import Attest.Proofs.Document.RoundTrip
import Attest.Proofs.Language.Quoting
import Attest.Proofs.Language.Names
import Attest.Proofs.Language.FloatTexts
import Attest.Proofs.Number.Nearest
import Attest.Proofs.Number.Shortest
import Attest.Proofs.Number.Plain
import Attest.Proofs.Syntax.Origins
import Attest.Proofs.Syntax.PathTexts
import Attest.Proofs.Syntax.LiteralTexts
import Attest.Proofs.Syntax.SourceTexts
import Attest.Proofs.Evaluation.Resolution
import Attest.Proofs.Language.Occurrences
import Attest.Proofs.Language.ClosingQuotes
import Attest.Proofs.Syntax.Spacing
import Attest.Proofs.Document.Tags
import Attest.Proofs.Document.EmptyTags
import Attest.Proofs.Unicode.Trimming
import Attest.Proofs.Document.KeyValue
import Attest.Proofs.Language.Heights
import Attest.Proofs.Syntax.Heights
import Attest.Proofs.Syntax.Invariants
