import HttpScenario.Assertion.Evaluator
import HttpScenario.Assertion.Operator
import HttpScenario.Assertion.Rule
import HttpScenario.Cache
import HttpScenario.Case.Basic
import HttpScenario.Case.Expectation
import HttpScenario.Case.Request
import HttpScenario.Case.Result
import HttpScenario.Case.Run
import HttpScenario.CommandLine.Command
import HttpScenario.CommandLine.Directory
import HttpScenario.CommandLine.Perform
import HttpScenario.CommandLine.Report
import HttpScenario.CommandLine.Style
import HttpScenario.Config
import HttpScenario.Double.Basic
import HttpScenario.Double.Decimal
import HttpScenario.Double.Shortest
import HttpScenario.Error
import HttpScenario.Http.Client
import HttpScenario.Http.Outbound
import HttpScenario.Http.Reply
import HttpScenario.Http.Token
import HttpScenario.Json.Basic
import HttpScenario.Json.Fault
import HttpScenario.Json.Fields
import HttpScenario.Json.Lexeme
import HttpScenario.Json.Number
import HttpScenario.Json.Path
import HttpScenario.Json.Printer
import HttpScenario.Json.Reader
import HttpScenario.Main
import HttpScenario.Pattern.BinaryTable
import HttpScenario.Pattern.Category
import HttpScenario.Pattern.Charset
import HttpScenario.Pattern.Fold
import HttpScenario.Pattern.Match
import HttpScenario.Pattern.Program
import HttpScenario.Pattern.Property
import HttpScenario.Pattern.Reader
import HttpScenario.Pattern.ScriptTable
import HttpScenario.Pattern.Tree
import HttpScenario.Pattern.Word
import HttpScenario.Progress
import HttpScenario.Scenario.Basic
import HttpScenario.Scenario.Document
import HttpScenario.Scenario.Format
import HttpScenario.Scenario.Run
import HttpScenario.Script.Compare
import HttpScenario.Script.Eval
import HttpScenario.Script.Expr
import HttpScenario.Script.Lexer
import HttpScenario.Script.Parser
import HttpScenario.Script.Token
import HttpScenario.Shape.Basic
import HttpScenario.Shape.Content
import HttpScenario.Shape.Reader
import HttpScenario.Table
import HttpScenario.Template
import HttpScenario.Text.Blank
import HttpScenario.Text.Hex
import HttpScenario.Text.Letter
import HttpScenario.Text.Pieces
import HttpScenario.Text.Printable
import HttpScenario.Text.Quoted
import HttpScenario.Text.Utf8
import HttpScenario.Toml.Lexeme
import HttpScenario.Toml.Number
import HttpScenario.Toml.Reader
import HttpScenario.Toml.Tree
import HttpScenario.Toml.Value
import HttpScenario.Url.Basic
import HttpScenario.Url.Direction
import HttpScenario.Url.Domain
import HttpScenario.Url.DomainTable
import HttpScenario.Url.Host
import HttpScenario.Url.Ip
import HttpScenario.Url.Joining
import HttpScenario.Url.Parse
import HttpScenario.Url.Punycode
import HttpScenario.Yaml.Lexer
import HttpScenario.Yaml.Node
import HttpScenario.Yaml.Plain
import HttpScenario.Yaml.Printer
import HttpScenario.Yaml.Reader
import HttpScenario.Yaml.Scalar
import HttpScenario.Yaml.Spot
import HttpScenario.Yaml.Token
import HttpScenario.Proofs.Assertion.Evaluation
import HttpScenario.Proofs.Case.Conditions
import HttpScenario.Proofs.Http.Build
import HttpScenario.Proofs.Scenario.Turns
import HttpScenario.Proofs.Scenario.CacheHistory
import HttpScenario.Proofs.Http.Exchange
import HttpScenario.Proofs.Scenario.Record
import HttpScenario.Proofs.Template.Cut
import HttpScenario.Proofs.Template.InPlace
import HttpScenario.Proofs.Template.Once
import HttpScenario.Proofs.Cache.Reads
import HttpScenario.Proofs.Scenario.AnySink
import HttpScenario.Proofs.Script.Grammar
import HttpScenario.Proofs.Script.Parsing
import HttpScenario.Proofs.Script.Ending
import HttpScenario.Proofs.Script.ViablePrefix
import HttpScenario.Proofs.Double.Whole
import HttpScenario.Proofs.Double.Nan
import HttpScenario.Proofs.Script.Printing
import HttpScenario.Proofs.Text.Letter
import HttpScenario.Proofs.Double.Decimal
import HttpScenario.Proofs.Script.Lexeme
import HttpScenario.Proofs.Script.Spacing
import HttpScenario.Proofs.Script.Lexing
import HttpScenario.Proofs.Script.LongestMatch
import HttpScenario.Proofs.Script.Counting
import HttpScenario.Proofs.Script.Limits
import HttpScenario.Proofs.Json.Lexeme
import HttpScenario.Proofs.Json.Written
import HttpScenario.Proofs.Shape.Kept
import HttpScenario.Proofs.Shape.Written
import HttpScenario.Proofs.Scenario.Written
import HttpScenario.Proofs.Json.Tabular
import HttpScenario.Proofs.Shape.Tabular
import HttpScenario.Proofs.Yaml.Tabular
import HttpScenario.Proofs.Scenario.RoundTrip
import HttpScenario.Proofs.Scenario.StableOrder
import HttpScenario.Proofs.Scenario.Lines
import HttpScenario.Proofs.Scenario.Transcript
import HttpScenario.Proofs.Scenario.Results
import HttpScenario.Proofs.Assertion.Kinds
import HttpScenario.Proofs.Scenario.OneEvaluator
import HttpScenario.Proofs.CommandLine.Verdict
import HttpScenario.Proofs.Scenario.Counts
import HttpScenario.Proofs.Json.Path
import HttpScenario.Proofs.Assertion.Subject
import HttpScenario.Proofs.Double.Order
import HttpScenario.Proofs.Json.Compact
import HttpScenario.Proofs.Assertion.WholeNumbers
import HttpScenario.Proofs.Json.Rest
import HttpScenario.Proofs.Json.Equality
import HttpScenario.Proofs.Json.NanFree
import HttpScenario.Proofs.Script.NanFree
import HttpScenario.Proofs.Script.Comparing
import HttpScenario.Proofs.Json.Place
import HttpScenario.Proofs.Json.Route
import HttpScenario.Proofs.Script.Access
import HttpScenario.Proofs.Assertion.Agreement
import HttpScenario.Proofs.Http.Payload
import HttpScenario.Proofs.Http.Sendable
import HttpScenario.Proofs.Json.ObjectFree
import HttpScenario.Proofs.Assertion.OwnValue
import HttpScenario.Proofs.Script.Spliced
import HttpScenario.Proofs.Assertion.Operators
import HttpScenario.Proofs.Assertion.Membership
import HttpScenario.Proofs.Assertion.Reads
import HttpScenario.Proofs.Assertion.Verdict
import HttpScenario.Proofs.Assertion.CachedValue
