import SigmaQuery.Cli.Command
import SigmaQuery.Cli.ConfigFile
import SigmaQuery.Cli.Convert
import SigmaQuery.Cli.Flag
import SigmaQuery.Cli.Invocation
import SigmaQuery.Cli.Log
import SigmaQuery.Cli.Report
import SigmaQuery.Cli.Rules
import SigmaQuery.Cli.Session
import SigmaQuery.Cli.Setting
import SigmaQuery.Cli.Settings
import SigmaQuery.Cli.Tool
import SigmaQuery.Convert.Backend
import SigmaQuery.Convert.Mode
import SigmaQuery.Document.Message
import SigmaQuery.Document.Metadata
import SigmaQuery.Document.Rule
import SigmaQuery.Document.Schema
import SigmaQuery.Dotenv
import SigmaQuery.Expr.Lex
import SigmaQuery.Expr.Token
import SigmaQuery.Expr.Wildcard
import SigmaQuery.Expr.Wildcard.Compile
import SigmaQuery.Expr.Wildcard.Matcher
import SigmaQuery.Files.Volume
import SigmaQuery.Main
import SigmaQuery.Net.Address
import SigmaQuery.Net.Prefix
import SigmaQuery.Proofs.Expr.Tokenize
import SigmaQuery.Proofs.Expr.Quantifier
import SigmaQuery.Proofs.Outcome
import SigmaQuery.Proofs.Query.Failures
import SigmaQuery.Proofs.Query.Flatten
import SigmaQuery.Proofs.Query.Reading
import SigmaQuery.Proofs.Query.RoundTrip
import SigmaQuery.Proofs.Rule.Accepted
import SigmaQuery.Proofs.Rule.Grammar
import SigmaQuery.Proofs.Rule.Sentences
import SigmaQuery.Proofs.Rule.WellFormed
import SigmaQuery.Proofs.Text.Runes
import SigmaQuery.Query.Compile
import SigmaQuery.Query.Escape
import SigmaQuery.Query.Term
import SigmaQuery.Rule.Build
import SigmaQuery.Rule.Condition
import SigmaQuery.Rule.Detection
import SigmaQuery.Rule.Error
import SigmaQuery.Rule.Level
import SigmaQuery.Rule.Modifier
import SigmaQuery.Rule.Parse
import SigmaQuery.Rule.PlaceholderFile
import SigmaQuery.Rule.Placeholders
import SigmaQuery.Rule.Raw
import SigmaQuery.Rule.Ruleset
import SigmaQuery.Rule.Selection
import SigmaQuery.Rule.Value
import SigmaQuery.Text.Binary64
import SigmaQuery.Text.Blank
import SigmaQuery.Text.Case
import SigmaQuery.Text.Csv
import SigmaQuery.Text.EditDistance
import SigmaQuery.Text.Graphic
import SigmaQuery.Text.Json
import SigmaQuery.Text.JsonSyntax
import SigmaQuery.Text.Numeral
import SigmaQuery.Text.Quoted
import SigmaQuery.Text.Timestamp
import SigmaQuery.Text.Utf8
import SigmaQuery.Text.Uuid
import SigmaQuery.Toml.Syntax
import SigmaQuery.Toml.Value
import SigmaQuery.Yaml.Decode
import SigmaQuery.Yaml.Error
import SigmaQuery.Yaml.Event
import SigmaQuery.Yaml.Node
import SigmaQuery.Yaml.Resolve
import SigmaQuery.Yaml.Source
import SigmaQuery.Yaml.Token
import SigmaQuery.Yaml.Token.Scalar
import SigmaQuery.Yaml.Token.Scan
import SigmaQuery.Yaml.Token.State
import SigmaQuery.Proofs.Rule.Counts
import SigmaQuery.Proofs.Cli.Summary
import SigmaQuery.Convert.Pool
import SigmaQuery.Proofs.Convert.Collection
import SigmaQuery.Proofs.Query.Defects
import SigmaQuery.Proofs.Query.Escaping
import SigmaQuery.Proofs.Query.Networks
import SigmaQuery.Proofs.Query.Parentheses
import SigmaQuery.Proofs.Document.ListDisplay
import SigmaQuery.Proofs.Document.Conformance
import SigmaQuery.Proofs.Convert.Single
import SigmaQuery.Proofs.Rule.Entries
import SigmaQuery.Proofs.Convert.Batch
import SigmaQuery.Proofs.Rule.Guarded
import SigmaQuery.Proofs.Rule.Documents
import SigmaQuery.Proofs.Text.Decoding
import SigmaQuery.Proofs.Text.JsonReading
import SigmaQuery.Proofs.Cli.Written
